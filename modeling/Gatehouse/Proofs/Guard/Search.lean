import Gatehouse.Guard
import Gatehouse.Proofs.Store.Deeds

namespace Gatehouse

open Surroundings (Same)

namespace State

variable {s : State} {now : Instant} {id : SessionId} {x y : Session}

/-- An id names a live session: it has the right length, is not all zeros, and is that of a stored
session that has begun and has not ended. -/
structure HasLive (s : State) (now : Instant) (id : SessionId) (x : Session) : Prop where
  length : id.octets.length = SessionId.size
  not_zero : ∃ o ∈ id.octets, o ≠ 0
  stored : s.findSession id = some x
  begun : x.createdAt.atMost now
  not_ended : now.before x.expiresAt

def fault (s : State) (now : Instant) (id : SessionId) : StoreError :=
  if id.isZero then .invalidSessionId
  else match s.findSession id with
    | none => .sessionNotFound
    | some x => if x.expiresAt.atMost now then .sessionExpired else .sessionNotYetValid

theorem hasLive_iff : s.HasLive now id x ↔ s.live id now = .ok x := by
  rw [live_eq_ok, SessionId.isZero_eq_false, Session.isLive, Bool.and_eq_true]
  constructor
  · intro h₀
    obtain ⟨hl, hz, hs, hb, he⟩ := h₀
    exact ⟨⟨hl, hz⟩, hs, hb, he⟩
  · intro h₀
    obtain ⟨⟨hl, hz⟩, hs, hb, he⟩ := h₀
    exact ⟨hl, hz, hs, hb, he⟩

theorem HasLive.unique (h : s.HasLive now id x) (h' : s.HasLive now id y) : x = y :=
  Option.some.inj (h.stored.symm.trans h'.stored)

theorem HasLive.id_eq (h : s.HasLive now id x) : x.id = id := id_of_findSession h.stored

theorem live_cases (s : State) (now : Instant) (id : SessionId) :
    (∃ x, s.live id now = .ok x) ∨ s.live id now = .error (s.fault now id) := by
  unfold live fault
  cases id.isZero with
  | true => exact .inr rfl
  | false =>
    cases s.findSession id with
    | none => exact .inr rfl
    | some x =>
      simp only [Bool.false_eq_true, if_false]
      cases x.expiresAt.atMost now <;> cases now.before x.createdAt <;> simp

theorem live_eq_fault (h : ∀ x, ¬ s.HasLive now id x) :
    s.live id now = .error (s.fault now id) := by
  rcases s.live_cases now id with ⟨x, hx⟩ | hf
  · exact absurd (hasLive_iff.2 hx) (h x)
  · exact hf

theorem isRetryable_fault (s : State) (now : Instant) (id : SessionId) :
    (s.fault now id).isRetryable = false := by
  unfold fault
  split
  · rfl
  · split
    · rfl
    · split <;> rfl

end State

namespace Deed

variable {retry : RetryPolicy} {id : SessionId} {s : Surroundings} {x : Session}

theorem hasLive_of_read_lookupSession (h : (read retry (Work.lookupSession id) s).1 = .ok x) :
    s.database.committed.HasLive s.now id x := by
  rcases transact_cases .readOnly retry (Work.lookupSession id) s with
    ⟨a, t, hw, -, hr, -⟩ | ⟨e, hr, -⟩
  · rw [Work.lookupSession_apply rfl] at hw
    rw [read, hr] at h
    cases h
    exact State.hasLive_iff.2 (Prod.mk.inj hw).1
  · rw [read, hr] at h
    cases h

theorem read_lookupSession_of_hasLive (hd : s.database.failingCommits = 0)
    (h : s.database.committed.HasLive s.now id x) :
    read retry (Work.lookupSession id) s = (.ok x, s) := by
  have hw : Work.lookupSession id s.now (s.database.begin .readOnly) =
      (.ok x, s.database.begin .readOnly) := by
    rw [Work.lookupSession_apply rfl]
    exact congrArg (·, _) (State.hasLive_iff.1 h)
  exact transact_of_ok hd hw rfl

theorem read_lookupSession_of_not_hasLive (h : ∀ x, ¬ s.database.committed.HasLive s.now id x) :
    read retry (Work.lookupSession id) s =
      (.error ⟨1, .work, s.database.committed.fault s.now id⟩, s) := by
  have hw : Work.lookupSession id s.now (s.database.begin .readOnly) =
      (.error (s.database.committed.fault s.now id), s.database.begin .readOnly) := by
    rw [Work.lookupSession_apply rfl]
    exact congrArg (·, _) (State.live_eq_fault h)
  exact transact_of_error (State.isRetryable_fault _ _ _) hw

end Deed

namespace Guard

variable {g : Guard} {total i : Nat} {ids : List SessionId} {id : SessionId} {s : Surroundings}
variable {x : Session}

theorem search_of_ok {s' : Surroundings}
    (h : Deed.read g.retry (Work.lookupSession id) s = (.ok x, s')) :
    g.search total i (id :: ids) s = (.ok x, s') := by
  simp only [search, bind, StateT.bind, h]
  rfl

theorem search_of_error {s' : Surroundings} {e : UnitError}
    (h : Deed.read g.retry (Work.lookupSession id) s = (.error e, s')) :
    g.search total i (id :: ids) s =
      ((g.search total (i + 1) ids s').1.mapError (.candidate i total e.error :: ·),
        (g.search total (i + 1) ids s').2) := by
  simp only [search, bind, StateT.bind, h]
  rfl

theorem search_same (g : Guard) (total i : Nat) (ids : List SessionId) :
    Deed.Keeps Same (g.search total i ids) := by
  induction ids generalizing i with
  | nil => exact .pure _
  | cons id ids ih =>
    rw [search]
    refine .bind (.transact (.lookupSession id)) fun r ↦ ?_
    cases r with
    | ok x => exact .pure _
    | error e => exact .bind (ih (i + 1)) fun _ ↦ .pure _

theorem search_entropy (g : Guard) (total i : Nat) (ids : List SessionId) (s : Surroundings)
    (e : Entropy) : g.search total i ids { s with entropy := e } =
      ((g.search total i ids s).1, { (g.search total i ids s).2 with entropy := e }) := by
  induction ids generalizing i s with
  | nil => rfl
  | cons id ids ih =>
    have hr : Deed.read g.retry (Work.lookupSession id) { s with entropy := e } =
      ((Deed.read g.retry (Work.lookupSession id) s).1,
        { (Deed.read g.retry (Work.lookupSession id) s).2 with entropy := e }) := rfl
    rcases h : Deed.read g.retry (Work.lookupSession id) s with ⟨_ | x, s'⟩
    · rw [h] at hr
      rw [search_of_error hr, search_of_error h, ih]
    · rw [h] at hr
      rw [search_of_ok hr, search_of_ok h]

/-- A session that is found is live, whatever happens to the transactions in which it is looked
for. -/
theorem search_finds (h : (g.search total i ids s).1 = .ok x) :
    ∃ id ∈ ids, s.database.committed.HasLive s.now id x := by
  induction ids generalizing i s with
  | nil => cases h
  | cons id ids ih =>
    rcases hr : Deed.read g.retry (Work.lookupSession id) s with ⟨r, s'⟩
    cases r with
    | ok y =>
      rw [search_of_ok hr] at h
      cases h
      exact ⟨id, List.mem_cons_self, Deed.hasLive_of_read_lookupSession (by rw [hr])⟩
    | error e =>
      have hs : Same s s' := by
        have h : Deed.Keeps Same (Deed.read g.retry (Work.lookupSession id)) :=
          .transact (.lookupSession id)
        simpa only [hr] using h s
      rw [search_of_error hr] at h
      cases hy : (g.search total (i + 1) ids s').1 with
      | error cs => rw [hy] at h; cases h
      | ok y =>
        rw [hy] at h
        cases h
        obtain ⟨id', hid', hl⟩ := ih hy
        exact ⟨id', List.mem_cons_of_mem id hid', by rwa [hs.now, hs.committed] at hl⟩

theorem search_of_first {earlier later : List SessionId} (hd : s.database.failingCommits = 0)
    (he : ∀ i ∈ earlier, ∀ y, ¬ s.database.committed.HasLive s.now i y)
    (h : s.database.committed.HasLive s.now id x) :
    g.search total i (earlier ++ id :: later) s = (.ok x, s) := by
  induction earlier generalizing i with
  | nil => exact search_of_ok (Deed.read_lookupSession_of_hasLive hd h)
  | cons j js ih =>
    have hj := he j List.mem_cons_self
    rw [List.cons_append, search_of_error (Deed.read_lookupSession_of_not_hasLive hj),
      ih fun k hk ↦ he k (List.mem_cons_of_mem j hk)]
    rfl

theorem search_of_none (h : ∀ i ∈ ids, ∀ y, ¬ s.database.committed.HasLive s.now i y) :
    g.search total i ids s = (.error (ids.mapIdx fun j id ↦
      .candidate (i + j) total (s.database.committed.fault s.now id)), s) := by
  induction ids generalizing i with
  | nil => rfl
  | cons id ids ih =>
    have hid := h id List.mem_cons_self
    rw [search_of_error (Deed.read_lookupSession_of_not_hasLive hid),
      ih fun k hk ↦ h k (List.mem_cons_of_mem id hk), List.mapIdx_cons]
    simp only [mapError_error, Nat.add_zero, Nat.add_assoc, Nat.add_comm 1]

end Guard

end Gatehouse
