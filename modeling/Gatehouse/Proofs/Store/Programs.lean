import Gatehouse.Proofs.Store.Deeds
import Gatehouse.Store.Sharing

namespace Gatehouse

/-- What a program can do in a transaction: read or write a row, or something on top of the rows. -/
inductive Instruction : Type → Type 1
  | read {α : Type} (r : Reading α) : Instruction α
  | write {α : Type} (w : Writing α) : Instruction α
  | lookupSession (id : SessionId) (now : Instant) : Instruction Session
  | upsertSession (x : Session) : Instruction Unit
  | revokeSession (id : SessionId) (reason : String) (now : Instant) : Instruction Unit
  | untaintSession (id : SessionId) (taint : String) (now : Instant) : Instruction Session
  | lookupUser (id : UserId) : Instruction User
  | lookupUserByName (username : String) : Instruction User
  | createUser (username : String) : Instruction User
  | addCredential (c : Credential) : Instruction CredentialId
  | checkSignCount (c : Credential) : Instruction Unit

def Instruction.work {α : Type} : Instruction α → Work α
  | .read r => r.work
  | .write w => w.work
  | .lookupSession id now => .lookupSession id now
  | .upsertSession x => .upsertSession x
  | .revokeSession id reason now => .revokeSession id reason now
  | .untaintSession id taint now => .untaintSession id taint now
  | .lookupUser id => .lookupUser id
  | .lookupUserByName username => .lookupUserByName username
  | .createUser username => .createUser username
  | .addCredential c => .addCredential c
  | .checkSignCount c => .checkSignCount c

/-- All that can be done in a transaction short of committing it. What is done next depends on what
has been answered, errors included. -/
inductive Program (ρ : Type) : Type 1
  | done (r : ρ)
  | perform {α : Type} (i : Instruction α) (next : Except StoreError α → Program ρ)
  | rollback (next : Except StoreError Unit → Program ρ)

namespace Program

variable {ρ : Type}

def run : Program ρ → Transaction → ρ × Transaction
  | done r, t => (r, t)
  | perform i next, t => (next (i.work t).1).run (i.work t).2
  | rollback next, t => (next t.rollback.1).run t.rollback.2

end Program

namespace Work

variable {α β : Type} {w : Work α}

def Obeys (w : Work α) : Prop := ∀ t, t.access = .readOnly → (w t).2 = t

namespace Obeys

theorem of_reads (h : w.Reads) : w.Obeys := fun t _ ↦ h t

theorem write (f : State → Except StoreError (α × State)) : Obeys (Work.write f) := by
  intro t ht
  unfold Work.write
  split
  · rw [ht]
  · rfl

theorem bind {f : α → Work β} (h : Obeys w) (h' : ∀ a, Obeys (f a)) : Obeys (w >>= f) := by
  intro t ht
  have hw := h t ht
  rw [bind_apply]
  rcases hr : w t with ⟨r, t'⟩
  rw [hr] at hw
  obtain rfl : t' = t := hw
  cases r with
  | ok a => exact h' a t' ht
  | error e => rfl

theorem fail (e : StoreError) : Obeys (Work.fail e : Work α) := of_reads (.fail e)

theorem pure (a : α) : Obeys (Pure.pure a) := of_reads (.pure a)

theorem upsertSession (x : Session) : Obeys (Work.upsertSession x) := by
  unfold Work.upsertSession
  split
  · exact fail _
  · split
    · exact write _
    · exact fail _

theorem revokeSession (id : SessionId) (reason : String) (now : Instant) :
    Obeys (Work.revokeSession id reason now) := by
  unfold Work.revokeSession
  split
  · exact fail _
  · refine (of_reads (.read _)).bind fun x? ↦ (of_reads (.demand _ x?)).bind fun x ↦ ?_
    split
    · exact write _
    · exact pure _

theorem untaintSession (id : SessionId) (taint : String) (now : Instant) :
    Obeys (Work.untaintSession id taint now) := by
  refine (of_reads (.lookupSession id now)).bind fun x ↦ ?_
  split
  · exact (write _).bind fun _ ↦ pure _
  · exact pure _

theorem createUser (username : String) : Obeys (Work.createUser username) := by
  unfold Work.createUser
  dsimp only
  split
  · exact fail _
  · refine (of_reads (.read _)).bind fun u? ↦ ?_
    split
    · exact fail _
    · exact write _

theorem addCredential (c : Credential) : Obeys (Work.addCredential c) := by
  unfold Work.addCredential
  split_ifs
  iterate 5 exact fail _
  exact write _

theorem checkSignCount (c : Credential) : Obeys (Work.checkSignCount c) := by
  intro t ht
  have hr : (Work.signCount c.id t).2 = t := Reads.read _ t
  have hw : (Work.setSignCount c.id c.signCount t).2 = t := write _ t ht
  -- `advanceCounter` is for any kind of store, so this is no sequence of works to take by `bind`
  unfold Work.checkSignCount advanceCounter
  rcases hn : Work.signCount c.id t with ⟨r, u⟩
  rw [hn] at hr
  obtain rfl : u = t := hr
  rcases r with e | _ | n
  · rfl
  · rfl
  · dsimp only
    split
    · rcases hs : Work.setSignCount c.id c.signCount u with ⟨r, v⟩
      rw [hs] at hw
      obtain rfl : v = u := hw
      rcases r with e | rows
      · rfl
      · dsimp only
        split <;> rfl
    · rfl

theorem instruction (i : Instruction α) : Obeys i.work := by
  cases i with
  | read r =>
    rw [Instruction.work, r.work_eq]
    exact of_reads (.read _)
  | write w =>
    rw [Instruction.work, w.work_eq]
    exact write _
  | lookupSession id now => exact of_reads (.lookupSession id now)
  | upsertSession x => exact upsertSession x
  | revokeSession id reason now => exact revokeSession id reason now
  | untaintSession id taint now => exact untaintSession id taint now
  | lookupUser id => exact of_reads (.lookupUser id)
  | lookupUserByName username => exact of_reads (.lookupUserByName username)
  | createUser username => exact createUser username
  | addCredential c => exact addCredential c
  | checkSignCount c => exact checkSignCount c

end Obeys

end Work

theorem Program.working_of_readOnly {ρ : Type} (p : Program ρ) {t : Transaction}
    (ht : t.access = .readOnly) : (p.run t).2.working = t.working := by
  induction p generalizing t with
  | done r => rfl
  | perform i next ih =>
    have hi : (i.work t).2 = t := Work.Obeys.instruction i t ht
    rw [run, hi]
    exact ih _ ht
  | rollback next ih =>
    have hr : t.rollback.2.access = t.access ∧ t.rollback.2.working = t.working := by
      unfold Transaction.rollback
      split <;> exact ⟨rfl, rfl⟩
    rw [run, ih _ (hr.1.trans ht), hr.2]

namespace Database

variable {α : Type}

def undertake (d : Database) (access : Access) (policy : RetryPolicy)
    (work : Nat → Program (Except Failure α)) : Run Connection α :=
  Connection.backend.run access policy (fun n ↦ Connection.within (work n).run) ⟨d, none⟩

/-- After `n` tries that failed in a way that may pass there is another one, which does its work in
the transaction `t` to the end, with `a` as the result, and which is committed. -/
structure Succeeds (d : Database) (access : Access) (policy : RetryPolicy)
    (work : Nat → Program (Except Failure α)) (n : Nat) (a : α) (t : Transaction) : Prop where
  allowed : n < max 1 policy.maxAttempts
  earlier : ∃ c, c.database.failingCommits = 0 ∧
    Connection.backend.FailedTries access (fun n ↦ Connection.within (work n).run) ⟨d, none⟩ n c
  work : (work (n + 1)).run (d.begin access) = (.ok a, t)
  isOpen : t.isOpen

variable {d : Database} {access : Access} {policy : RetryPolicy}
variable {work : Nat → Program (Except Failure α)} {n : Nat} {a : α} {t : Transaction}

theorem Succeeds.undertake (h : d.Succeeds access policy work n a t) :
    (d.undertake access policy work).result = .ok a ∧
      (d.undertake access policy work).final.database = ⟨t.working, 0⟩ := by
  obtain ⟨c, hd, hc⟩ := h.earlier
  have hb : c.database.begin access = d.begin access := by
    rw [Database.begin, Connection.committed_of_failedTries hc]
    rfl
  rw [Database.undertake, hc.run_eq h.allowed,
    Backend.runFrom_of_ok (Connection.attempt_within_of_ok hd (hb ▸ h.work) h.isOpen)]
  exact ⟨rfl, congrArg (Database.mk t.working) hd⟩

theorem undertake_cases (d : Database) (access : Access) (policy : RetryPolicy)
    (work : Nat → Program (Except Failure α)) :
    (∃ n a t, d.Succeeds access policy work n a t ∧
      (d.undertake access policy work).result = .ok a) ∨
    (∃ e, (d.undertake access policy work).result = .error e ∧
      (d.undertake access policy work).final.database.committed = d.committed) := by
  rcases Connection.run_within access policy (fun n ↦ (work n).run) ⟨d, none⟩ with
    ⟨n, c, a, t, hn, hc, hd, hw, ht, hr, -⟩ | h
  · exact .inl ⟨n, a, t, ⟨hn, ⟨c, hd, hc⟩, hw, ht⟩, hr⟩
  · exact .inr h

/-- A unit of work takes effect once, by the last try alone, or not at all. -/
theorem once_or_not_at_all (d : Database) (access : Access) (policy : RetryPolicy)
    (work : Nat → Program (Except Failure α)) :
    (∀ a, (d.undertake access policy work).result = .ok a ↔
      ∃ n t, d.Succeeds access policy work n a t) ∧
    (∀ n a t, d.Succeeds access policy work n a t →
      (d.undertake access policy work).final.database.committed = t.working) ∧
    (∀ e, (d.undertake access policy work).result = .error e →
      (d.undertake access policy work).final.database.committed = d.committed) ∧
    (access = .readOnly →
      (d.undertake access policy work).final.database.committed = d.committed) := by
  refine ⟨fun a ↦ ⟨fun h ↦ ?_, ?_⟩, fun n a t h ↦ by rw [h.undertake.2], fun e h ↦ ?_, ?_⟩
  · rcases undertake_cases d access policy work with ⟨n, a', t, hs, hr⟩ | ⟨e, hr, -⟩
    · rw [h, Except.ok.injEq] at hr
      exact ⟨n, t, hr ▸ hs⟩
    · rw [h] at hr
      cases hr
  · intro h₀
    obtain ⟨n, t, hs⟩ := h₀
    exact hs.undertake.1
  · rcases undertake_cases d access policy work with ⟨n, a, t, hs, hr⟩ | ⟨e', -, hc⟩
    · rw [h] at hr
      cases hr
    · exact hc
  · rintro rfl
    rcases undertake_cases d .readOnly policy work with ⟨n, a, t, hs, -⟩ | ⟨e, -, hc⟩
    · have hw := (work (n + 1)).working_of_readOnly (t := d.begin .readOnly) rfl
      rw [hs.work] at hw
      rw [hs.undertake.2]
      exact hw
    · exact hc

def persistent : Nat → Program (Except Failure User)
  | 1 => .perform (.createUser "ann") fun _ ↦ .rollback fun _ ↦ .done (.ok ⟨⟨1⟩, "ann"⟩)
  | _ => .perform (.createUser "ann") fun r ↦ .done (r.mapError .fatal)

theorem once_or_not_at_all_persistent :
    let d : Database := { failingCommits := 1 }
    let t : Transaction := ⟨{ users := [⟨⟨1⟩, "ann"⟩], lastUser := 1 }, .readWrite, true⟩
    d.Succeeds .readWrite {} persistent 2 ⟨⟨1⟩, "ann"⟩ t ∧
      (d.undertake .readWrite {} persistent).result = .ok ⟨⟨1⟩, "ann"⟩ ∧
      (d.undertake .readWrite {} persistent).final.database.committed = t.working := by
  intro d t
  have h₀ : Connection.backend.FailedTries .readWrite
    (fun n ↦ Connection.within (persistent n).run) ⟨d, none⟩ 0 ⟨d, none⟩ := .none
  have h₁ := h₀.another rfl
  have h₂ := h₁.another rfl
  have h : d.Succeeds .readWrite {} persistent 2 ⟨⟨1⟩, "ann"⟩ t :=
    ⟨by decide, ⟨_, rfl, h₂⟩, rfl, rfl⟩
  obtain ⟨hok, hcommitted, -, -⟩ := once_or_not_at_all d .readWrite {} persistent
  exact ⟨h, (hok _).2 ⟨2, t, h⟩, hcommitted 2 _ t h⟩

end Database

end Gatehouse
