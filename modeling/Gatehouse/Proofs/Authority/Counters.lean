import Mathlib.Data.List.Chain
import Gatehouse.Proofs.Authority.Runs
import Gatehouse.Proofs.Store.Dealings

namespace Gatehouse

open Surroundings (SameRows)

def Action.Counts : Action → Prop
  | .checkSignCount _ => True
  | _ => False

theorem State.signCount_of_effect {s s' : State} {now : Instant} {a : Action} {id : CredentialId}
    {n : Nat} (he : a.Effect now s s') (ha : ¬a.Counts) (hn : s.signCount id = some n) :
    s'.signCount id = some n := by
  cases he with
  | revoked | untainted | upserted => exact hn
  | created hu hs =>
    obtain ⟨-, rfl, rfl⟩ := insertUser_eq_ok.1 hs
    exact hn
  | added hc hp hu hb hs =>
    obtain ⟨-, -, rfl, rfl⟩ := insertCredential_eq_ok.1 hs
    obtain ⟨c, hc, hd, rfl⟩ := signCount_eq_some.1 hn
    refine signCount_eq_some.2 ⟨c, ?_, hd, rfl⟩
    rw [findCredential] at hc ⊢
    rw [List.find?_append, hc, Option.some_or]
  | counted => exact absurd trivial ha

namespace Authority

variable {a : Authority} {x y : Session} {c : Credential} {s : Surroundings} {n : Nat}

/-- The first part of the end of a login: the credential that vouches for the session, with the
counter that it presents. -/
def vouched (a : Authority) (v : Verifier) (x : Session) (t : Assertion) : Call Credential := do
  let refused {α : Type} (r : Except CeremonyError α) : Call α :=
    ExceptT.mk (pure (r.mapError (refuse "finish login")))
  let _ ← refused (validateClientData t.clientData .login x.id a.links.origin)
  let credentials ← a.existingCredentials x.user
  match credentials.find? fun c ↦ c.credentialId == t.credentialId with
  | none => refused (.error .unknownCredential)
  | some c =>
    let presented ← refused (v.vouch a.links.host c t)
    return { c with signCount := presented }

def record (a : Authority) (x : Session) (c : Credential) : Call Session :=
  a.change "check counter and upgrade session" fun now ↦ do
    Work.checkSignCount c
    Work.untaintSession x.id Taints.startLogin now

theorem upgrade_eq (a : Authority) (v : Verifier) (x : Session) (t : Assertion) :
    a.upgrade v x t = a.vouched v x t >>= a.record x := by
  simp only [upgrade, vouched, bind_assoc]
  congr 1
  funext _
  congr 1
  funext credentials
  cases credentials.find? fun c ↦ c.credentialId == t.credentialId with
  | none => rfl
  | some c => simp only [bind_assoc, pure_bind, record]

def trying (a : Authority) (retry : RetryPolicy) : Authority :=
  { a with guard := { a.guard with retry } }

theorem trying_self (a : Authority) : a.trying a.guard.retry = a := rfl

theorem record_cases (a : Authority) (x : Session) (c : Credential) (s : Surroundings) :
    (∃ y s' n z, (a.record x c).run s = (.ok y, s') ∧
      s.database.committed.signCount c.id = some n ∧ counterFollows n c.signCount ∧
      s'.database.committed =
        (s.database.committed.setSignCount c.id c.signCount).2.withSession z) ∨
    ∃ e s', (a.record x c).run s = (.error e, s') ∧ SameRows s s' := by
  rcases a.change_cases "check counter and upgrade session" (fun now ↦ do
    Work.checkSignCount c
    Work.untaintSession x.id Taints.startLogin now) s with
    ⟨y, t, s', hw, hr, hc, -⟩ | ⟨e, s', hr, hs⟩
  · obtain ⟨n, z, hn, hf, -, -, hs⟩ := Work.countAndUntaint_of_ok rfl hw
    exact .inl ⟨y, s', n, _, hr, hn, hf, hc.trans hs⟩
  · exact .inr ⟨e, s', hr, hs.toSameRows⟩

theorem record_of_stale (x : Session) (hn : s.database.committed.signCount c.id = some n)
    (hf : counterFollows n c.signCount = false) :
    ∃ e, (a.record x c).run s = (.error e, s) ∧ e.code = .permissionDenied := by
  have hw : (do Work.checkSignCount c; Work.untaintSession x.id Taints.startLogin s.now :
      Work Session) (s.database.begin .readWrite) =
        (.error (.counterNotIncreased n c.signCount), s.database.begin .readWrite) := by
    rw [Work.bind_apply, Work.checkSignCount_of_stale rfl hn hf]
  refine ⟨Status.ofStore "check counter and upgrade session"
    ⟨1, .work, .counterNotIncreased n c.signCount⟩, ?_, rfl⟩
  rw [record, change, Call.run_attempt, Deed.write, Deed.transact_of_error rfl hw]
  rfl

/-- Logins that are being finished at the same time. Those that wait have been vouched for, and
their counters have still to be recorded. -/
structure Logins where
  rows : State
  waiting : List (Session × Credential) := []

namespace Logins

inductive Event
  | vouch (x : Session) (c : Credential)
  | record (x : Session) (c : Credential) (answer : Except Status Session)
  | other (d : Dealing)

/-- The two parts of a login are done on whatever is stored at their time. Between the tries of a
transaction, too, anything may happen, so that each event is some number of tries. -/
inductive Step (a : Authority) : Logins → Event → Logins → Prop
  | vouch {l : Logins} {s : Surroundings} {v : Verifier} {x : Session} {t : Assertion}
      {c : Credential} (retry : RetryPolicy) : s.database.committed = l.rows →
      (((a.trying retry).vouched v x t).run s).1 = .ok c →
      Step a l (.vouch x c) { l with waiting := l.waiting ++ [(x, c)] }
  | record {l : Logins} {s s' : Surroundings} {x : Session} {c : Credential}
      {answer : Except Status Session} (retry : RetryPolicy) : s.database.committed = l.rows →
      (x, c) ∈ l.waiting → ((a.trying retry).record x c).run s = (answer, s') →
      Step a l (.record x c answer) ⟨s'.database.committed,
        if answer.isOk then l.waiting.erase (x, c) else l.waiting⟩
  | other {l : Logins} {d : Dealing} : (∀ p ∈ d.actions, ¬p.2.Counts) →
      Step a l (.other d) { l with rows := (({ committed := l.rows } : Database).deal d).committed }

inductive Run (a : Authority) (s : State) : List Event → Logins → Prop
  | start : Run a s [] ⟨s, []⟩
  | step {es : List Event} {e : Event} {l l' : Logins} :
      Run a s es l → Step a l e l' → Run a s (es ++ [e]) l'

def Event.accepted? (id : CredentialId) : Event → Option Nat
  | .record _ c (.ok _) => if c.id = id then some c.signCount else none
  | _ => none

def accepted (id : CredentialId) (es : List Event) : List Nat := es.filterMap (Event.accepted? id)

variable {s : State} {l l' : Logins} {e : Event} {es : List Event} {id : CredentialId}

/-- The stored counter is changed only by one that is accepted, and that follows it. -/
theorem Step.counter (h : Step a l e l') (hn : l.rows.signCount id = some n) :
    (e.accepted? id = none ∧ l'.rows.signCount id = some n) ∨
    ∃ m, e.accepted? id = some m ∧ counterFollows n m ∧ l'.rows.signCount id = some m := by
  cases h with
  | vouch => exact .inl ⟨rfl, hn⟩
  | @record s s' x c answer retry hs hw hr =>
    rcases (a.trying retry).record_cases x c s with
      ⟨y, s'', m, z, hr', hm, hf, hc⟩ | ⟨e, s'', hr', hc⟩
    · obtain ⟨rfl, rfl⟩ := Prod.mk.inj (hr.symm.trans hr')
      have hcount : s'.database.committed.signCount id =
          if id = c.id then some c.signCount else l.rows.signCount id := by
        rw [hc, ← hs]
        exact State.signCount_setSignCount hm c.signCount id
      by_cases hid : id = c.id
      · subst hid
        obtain rfl : m = n := Option.some.inj (hm.symm.trans (hs ▸ hn))
        exact .inr ⟨c.signCount, if_pos rfl, hf, hcount.trans (if_pos rfl)⟩
      · refine .inl ⟨if_neg (Ne.symm hid), ?_⟩
        rw [hcount, if_neg hid, hn]
    · obtain ⟨rfl, rfl⟩ := Prod.mk.inj (hr.symm.trans hr')
      refine .inl ⟨rfl, ?_⟩
      change s'.database.committed.signCount id = some n
      rw [hc.committed, hs, hn]
  | other hd =>
    refine .inl ⟨rfl, Database.deal_keeps (P := fun s ↦ s.signCount id = some n) hn ?_⟩
    exact fun p hp _ _ hm he ↦ State.signCount_of_effect he (hd p hp) hm

theorem Run.history (h : Run a s es l) (hn : s.signCount id = some n) :
    (n :: accepted id es).IsChain (fun n m ↦ counterFollows n m) ∧
      l.rows.signCount id = (n :: accepted id es).getLast? := by
  induction h with
  | start => exact ⟨.singleton n, hn⟩
  | @step es e l l' _ hs ih =>
    obtain ⟨hc, hl⟩ := ih
    obtain ⟨k, hk⟩ : ∃ k, (n :: accepted id es).getLast? = some k :=
      ⟨_, List.getLast?_eq_some_getLast (List.cons_ne_nil _ _)⟩
    have happend : n :: accepted id (es ++ [e]) =
        (n :: accepted id es) ++ (e.accepted? id).toList := by
      unfold accepted
      rw [List.filterMap_append, List.cons_append]
      cases he : e.accepted? id <;> simp only [List.filterMap_cons, he] <;> rfl
    rw [happend]
    rcases hs.counter (hl.trans hk) with ⟨he, hl'⟩ | ⟨m, he, hf, hl'⟩
    · rw [he, Option.toList_none, List.append_nil]
      exact ⟨hc, hl'.trans hk.symm⟩
    · rw [he, Option.toList_some]
      refine ⟨List.isChain_append.2 ⟨hc, .singleton m, ?_⟩, ?_⟩
      · intro i hi j hj
        obtain rfl : k = i := Option.some.inj (hk.symm.trans hi)
        obtain rfl : m = j := Option.some.inj hj
        exact hf
      · rw [List.getLast?_concat, hl']

theorem pairwise_lt_of_isChain {ns : List Nat} (h : ns.IsChain fun n m ↦ counterFollows n m)
    (hz : 0 ∉ ns) : ns.Pairwise (· < ·) := by
  refine (h.imp_of_mem_imp fun n m hn hm hf ↦ ?_).pairwise
  have hn0 : n ≠ 0 := fun h ↦ hz (h ▸ hn)
  have hm0 : m ≠ 0 := fun h ↦ hz (h ▸ hm)
  simpa [counterFollows, hn0, hm0] using hf

/-- As long as no zero is accepted, each counter of a credential that is accepted is greater than
all before, and any other but zero is refused. A zero makes the store forget what came before. -/
theorem counters_increase_between_zeros (h : Run a s es l) (hn : s.signCount id = some n) :
    (∀ stretch, stretch <:+: n :: accepted id es → 0 ∉ stretch → stretch.Pairwise (· < ·)) ∧
    l.rows.signCount id = (n :: accepted id es).getLast? ∧
    ∀ stretch, stretch <:+ n :: accepted id es → 0 ∉ stretch → ∀ m ∈ stretch, ∀ x c,
      c.id = id → c.signCount ≠ 0 → c.signCount ≤ m → ∀ retry (s : Surroundings),
      s.database.committed = l.rows →
        ∃ e, ((a.trying retry).record x c).run s = (.error e, s) ∧ e.code = .permissionDenied := by
  obtain ⟨hc, hl⟩ := h.history hn
  have hp : ∀ stretch, stretch <:+: n :: accepted id es → 0 ∉ stretch →
      stretch.Pairwise (· < ·) := by
    rintro stretch ⟨before, after, hi⟩ hz
    rw [← hi] at hc
    exact pairwise_lt_of_isChain hc.left_of_append.right_of_append hz
  refine ⟨hp, hl, ?_⟩
  rintro stretch hi hz m hm x c rfl hc0 hcm retry s hs
  obtain ⟨init, k, rfl⟩ := List.eq_nil_or_concat stretch |>.resolve_left (List.ne_nil_of_mem hm)
  rw [List.concat_eq_append] at hi hz hm
  -- the last counter that has been accepted is the greatest of the stretch, and is stored
  have hmk : m ≤ k := by
    rcases List.mem_append.1 hm with hm | hm
    · have hlt := (List.pairwise_append.1 (hp _ hi.isInfix hz)).2.2 m hm k List.mem_cons_self
      omega
    · exact (List.mem_singleton.1 hm).le
  have hk : l.rows.signCount c.id = some k := by
    obtain ⟨before, hb⟩ := hi
    rw [hl, ← hb, ← List.append_assoc, List.getLast?_concat]
  have hk0 : k ≠ 0 := fun h ↦ hz (h ▸ List.mem_append_right init List.mem_cons_self)
  refine record_of_stale x (hs.symm ▸ hk) ?_
  simp only [counterFollows, hk0, hc0, decide_false, Bool.or_self, Bool.false_or,
    decide_eq_false_iff_not]
  omega

section Rivals

def copied (counter : Nat) : Credential :=
  ⟨⟨1⟩, ⟨⟨1⟩, "ann"⟩, [1], [1], "key", [], counter, .epoch, ⟨List.replicate 64 3⟩, none⟩

def rival (n : UInt8) : Session :=
  ⟨⟨List.replicate 64 n⟩, ⟨⟨1⟩, "ann"⟩, .epoch, ⟨9, 0⟩, .ofList [Taints.startLogin], {}⟩

def beforeRivals : State where
  users := [⟨⟨1⟩, "ann"⟩]
  sessions := [rival 1, rival 2]
  credentials := [copied 5]
  lastUser := 1
  lastCredential := 1

def atRivals (s : State) : Surroundings := ⟨⟨1, 0⟩, {}, ⟨s, 0⟩⟩

def readsCounter : Verifier where
  attest _ _ := .error (.verification "no attestation")
  vouch _ _ t := .ok t.signature.toNatLittle

def rivalAssertion (x : Session) (counter : Nat) : Assertion where
  credentialId := [1]
  clientData := statement .login x.id
  authenticatorData := []
  signature := .ofNatLittle 4 counter

def recorded (x : Session) (counter : Nat) (s : State) : Except Status Session × Surroundings :=
  (gate.record x (copied counter)).run (atRivals s)

/-- Both are vouched for before either of the counters is recorded. -/
def rivals (n m : Nat) : List Event :=
  let first := recorded (rival 1) n beforeRivals
  [.vouch (rival 1) (copied n), .vouch (rival 2) (copied m), .record (rival 1) (copied n) first.1,
    .record (rival 2) (copied m) (recorded (rival 2) m first.2.database.committed).1]

theorem step_recorded {rows : State} {waiting : List (Session × Credential)} {x : Session} {n : Nat}
    (hx : (x, copied n) ∈ waiting) :
    Step gate ⟨rows, waiting⟩ (.record x (copied n) (recorded x n rows).1)
      ⟨(recorded x n rows).2.database.committed,
        if (recorded x n rows).1.isOk then waiting.erase (x, copied n) else waiting⟩ :=
  .record (s := atRivals rows) gate.guard.retry rfl hx rfl

theorem run_rivals {n m : Nat}
    (hn : ((gate.vouched readsCounter (rival 1) (rivalAssertion (rival 1) n)).run
      (atRivals beforeRivals)).1 = .ok (copied n))
    (hm : ((gate.vouched readsCounter (rival 2) (rivalAssertion (rival 2) m)).run
      (atRivals beforeRivals)).1 = .ok (copied m)) :
    ∃ l, Run gate beforeRivals (rivals n m) l := by
  have h₁ : Step gate ⟨beforeRivals, []⟩ (.vouch (rival 1) (copied n)) _ :=
    .vouch gate.guard.retry rfl (gate.trying_self.symm ▸ hn)
  have h₂ : Step gate ⟨beforeRivals, [(rival 1, copied n)]⟩ (.vouch (rival 2) (copied m)) _ :=
    .vouch gate.guard.retry rfl (gate.trying_self.symm ▸ hm)
  have hrun := ((Run.start.step h₁).step h₂).step (step_recorded List.mem_cons_self)
  refine ⟨_, hrun.step (step_recorded ?_)⟩
  have hr : rival 2 ≠ rival 1 := by decide
  have hmem : (rival 2, copied m) ∈ [(rival 1, copied n), (rival 2, copied m)] := by simp
  split
  · exact (List.mem_erase_of_ne fun h ↦ hr (Prod.mk.inj h).1).2 hmem
  · exact hmem

theorem counters_increase_between_zeros_rivals :
    ∃ l, Run gate beforeRivals (rivals 7 6) l ∧ beforeRivals.signCount ⟨1⟩ = some 5 ∧
      l.rows.signCount ⟨1⟩ = some 7 := by
  obtain ⟨l, h⟩ := run_rivals (n := 7) (m := 6) (by decide +kernel) (by decide +kernel)
  have hn : beforeRivals.signCount ⟨1⟩ = some 5 := rfl
  have ha : accepted ⟨1⟩ (rivals 7 6) = [7] := by decide +kernel
  have hl := (counters_increase_between_zeros h hn).2.1
  rw [ha] at hl
  exact ⟨l, h, hn, hl⟩

theorem counters_fall_after_zero :
    ¬ ∀ (a : Authority) (s : State) (es : List Event) (l : Logins), Run a s es l →
      ∀ id n, s.signCount id = some n →
        ((n :: accepted id es).filter (· ≠ 0)).Pairwise (· < ·) := by
  intro h
  obtain ⟨l, hr⟩ := run_rivals (n := 0) (m := 3) (by decide +kernel) (by decide +kernel)
  have hp := h gate beforeRivals (rivals 0 3) l hr ⟨1⟩ 5 rfl
  have ha : accepted ⟨1⟩ (rivals 0 3) = [0, 3] := by decide +kernel
  rw [ha] at hp
  exact absurd hp (by decide)

end Rivals

end Logins

end Authority

end Gatehouse
