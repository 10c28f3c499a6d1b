import Gatehouse.Proofs.Store.Effects

namespace Gatehouse

inductive Action
  | lookupSession (id : SessionId)
  | revokeSession (id : SessionId) (reason : String)
  | untaintSession (id : SessionId) (taint : String)
  | upsertSession (x : Session)
  | createUser (username : String)
  | addCredential (c : Credential)
  | checkSignCount (c : Credential)

namespace Action

def after (now : Instant) (t : Transaction) : Action → Transaction
  | .lookupSession id => (Work.lookupSession id now t).2
  | .revokeSession id reason => (Work.revokeSession id reason now t).2
  | .untaintSession id taint => (Work.untaintSession id taint now t).2
  | .upsertSession x => (Work.upsertSession x t).2
  | .createUser username => (Work.createUser username t).2
  | .addCredential c => (Work.addCredential c t).2
  | .checkSignCount c => (Work.checkSignCount c t).2

/-- What an action that is not refused makes of the rows. -/
inductive Effect (now : Instant) : Action → State → State → Prop
  | revoked {s : State} {id : SessionId} {x : Session} (reason : String) :
      id.isZero = false → s.findSession id = some x →
      Effect now (.revokeSession id reason) s (s.withSession (x.revoke reason now).2)
  | untainted {s : State} {id : SessionId} {x : Session} (taint : String) :
      s.live id now = .ok x →
      Effect now (.untaintSession id taint) s (s.withSession (x.untaint taint).2)
  | upserted {s : State} {x : Session} {u : User} :
      x.id.isZero = false → x.user.id.isAssigned → s.findUser x.user.id = some u →
      Effect now (.upsertSession x) s (s.withSession x)
  | created {s s' : State} {username : String} {u : User} :
      Text.trimmed username ≠ "" → s.insertUser (Text.trimmed username) = .ok (u, s') →
      Effect now (.createUser username) s s'
  | added {s s' : State} {c : Credential} {i : CredentialId} :
      c.credentialId ≠ [] → c.publicKey ≠ [] → c.user.id.isAssigned → c.createdBy.isZero = false →
      s.insertCredential c = .ok (i, s') → Effect now (.addCredential c) s s'
  | counted {s : State} {c : Credential} {n : Nat} :
      s.signCount c.id = some n → counterFollows n c.signCount →
      Effect now (.checkSignCount c) s (s.setSignCount c.id c.signCount).2

variable {t : Transaction}

theorem after_cases (ht : t.isOpen) (now : Instant) (a : Action) :
    a.after now t = t ∨
    ∃ s, a.Effect now t.working s ∧ a.after now t = { t with working := s } := by
  cases a with
  | lookupSession id => exact .inl (by rw [after, Work.lookupSession_apply ht])
  | revokeSession id reason =>
    rcases Work.revokeSession_cases ht id reason now with ⟨e, h⟩ | ⟨hid, x, hx, h⟩
    · exact .inl (by rw [after, h])
    · exact .inr ⟨_, .revoked reason hid hx, by rw [after, h]⟩
  | untaintSession id taint =>
    rcases Work.untaintSession_cases ht id taint now with ⟨e, h⟩ | ⟨x, hx, h⟩
    · exact .inl (by rw [after, h])
    · exact .inr ⟨_, .untainted taint hx, by rw [after, h]⟩
  | upsertSession x =>
    rcases Work.upsertSession_cases ht x with ⟨e, h⟩ | ⟨hid, ha, ⟨u, hu⟩, h⟩
    · exact .inl (by rw [after, h])
    · exact .inr ⟨_, .upserted hid ha hu, by rw [after, h]⟩
  | createUser username =>
    rcases Work.createUser_cases ht username with ⟨e, h⟩ | ⟨u, s, hn, hs, h⟩
    · exact .inl (by rw [after, h])
    · exact .inr ⟨s, .created hn hs, by rw [after, h]⟩
  | addCredential c =>
    rcases Work.addCredential_cases ht c with ⟨e, h⟩ | ⟨i, s, -, hc, hp, hu, hb, hs, h⟩
    · exact .inl (by rw [after, h])
    · exact .inr ⟨s, .added hc hp hu hb hs, by rw [after, h]⟩
  | checkSignCount c =>
    rcases Work.checkSignCount_cases ht c with ⟨e, h⟩ | ⟨n, hn, hf, h⟩
    · exact .inl (by rw [after, h])
    · exact .inr ⟨_, .counted hn hf, by rw [after, h]⟩

end Action

inductive Ending
  | commit
  | rollback
  | abandon

/-- A transaction from its beginning to its end: what is done in it, each at a time, whether or not
anything before has been refused. -/
structure Dealing where
  access : Access := .readWrite
  actions : List (Instant × Action)
  ending : Ending := .commit
  failingCommits : Nat := 0

namespace Transaction

def act (t : Transaction) (p : Instant × Action) : Transaction := p.2.after p.1 t

def acts (t : Transaction) (ps : List (Instant × Action)) : Transaction := ps.foldl act t

variable {t : Transaction} {P : State → Prop} {ps : List (Instant × Action)}

theorem acts_append (t : Transaction) (ps qs : List (Instant × Action)) :
    t.acts (ps ++ qs) = (t.acts ps).acts qs := List.foldl_append

theorem acts_keep (ht : t.isOpen) (hP : P t.working)
    (h : ∀ p ∈ ps, ∀ s s', P s → p.2.Effect p.1 s s' → P s') :
    (t.acts ps).isOpen ∧ P (t.acts ps).working := by
  induction ps generalizing t with
  | nil => exact ⟨ht, hP⟩
  | cons p ps ih =>
    have h' : ∀ q ∈ ps, ∀ s s', P s → q.2.Effect q.1 s s' → P s' :=
      fun q hq ↦ h q (List.mem_cons_of_mem p hq)
    rcases Action.after_cases ht p.1 p.2 with hp | ⟨s, he, hp⟩
    · simpa only [acts, List.foldl_cons, act, hp] using ih ht hP h'
    · simpa only [acts, List.foldl_cons, act, hp] using
        ih (t := { t with working := s }) ht (h p List.mem_cons_self _ _ hP he) h'

theorem acts_isOpen (ht : t.isOpen) (ps : List (Instant × Action)) : (t.acts ps).isOpen :=
  (acts_keep (P := fun _ ↦ True) ht trivial fun _ _ _ _ _ _ ↦ trivial).1

end Transaction

namespace Database

def working (d : Database) (x : Dealing) : Transaction := (d.begin x.access).acts x.actions

def deal (d : Database) (x : Dealing) : Database :=
  let d := { d with failingCommits := x.failingCommits }
  match x.ending with
  | .commit => ((d.working x).commit d).2.2
  | .rollback | .abandon => d

def deals (d : Database) (xs : List Dealing) : Database := xs.foldl deal d

variable {d : Database} {x : Dealing} {xs : List Dealing} {P : State → Prop}

theorem deals_append (d : Database) (xs ys : List Dealing) :
    d.deals (xs ++ ys) = (d.deals xs).deals ys := List.foldl_append

theorem committed_deal (d : Database) (x : Dealing) :
    (d.deal x).committed = (d.working x).working ∨ (d.deal x).committed = d.committed := by
  unfold deal
  cases x.ending with
  | commit =>
    simp only [Transaction.commit]
    split
    · split
      · exact .inr rfl
      · exact .inl rfl
    · exact .inr rfl
  | rollback => exact .inr rfl
  | abandon => exact .inr rfl

theorem committed_deal_of_commit (hx : x.ending = .commit) (hf : x.failingCommits = 0) :
    (d.deal x).committed = (d.working x).working := by
  have ho : (working { d with failingCommits := 0 } x).isOpen := Transaction.acts_isOpen rfl _
  simp only [deal, hx, hf, Transaction.commit, if_pos ho]
  rfl

theorem deal_keeps (hd : P d.committed)
    (h : ∀ p ∈ x.actions, ∀ s s', P s → p.2.Effect p.1 s s' → P s') : P (d.deal x).committed := by
  rcases committed_deal d x with hc | hc <;> rw [hc]
  · exact (Transaction.acts_keep (t := d.begin x.access) rfl hd h).2
  · exact hd

/-- What every effect keeps is kept by a run of transactions, however they end. -/
theorem deals_keep (hd : P d.committed)
    (h : ∀ x ∈ xs, ∀ p ∈ x.actions, ∀ s s', P s → p.2.Effect p.1 s s' → P s') :
    P (d.deals xs).committed := by
  induction xs generalizing d with
  | nil => exact hd
  | cons x xs ih =>
    exact ih (deal_keeps hd (h x List.mem_cons_self)) fun y hy ↦ h y (List.mem_cons_of_mem x hy)

end Database

end Gatehouse
