import Mathlib.Tactic.SplitIfs
import Gatehouse.Store.Policy

namespace Gatehouse

namespace State

variable {s s' : State} {id : SessionId} {x : Session} {now : Instant}

/-- The session with an id if it is live, and otherwise what is wrong with the id. -/
def live (s : State) (id : SessionId) (now : Instant) : Except StoreError Session :=
  if id.isZero then .error .invalidSessionId
  else match s.findSession id with
    | none => .error .sessionNotFound
    | some x =>
      if x.expiresAt.atMost now then .error .sessionExpired
      else if now.before x.createdAt then .error .sessionNotYetValid
      else .ok x

def withSession (s : State) (x : Session) : State :=
  { s with sessions := replaceSession x s.sessions }

theorem id_of_findSession (h : s.findSession id = some x) : x.id = id := by
  simpa using List.find?_some h

theorem findSession_withSession (s : State) (x : Session) (id : SessionId) :
    (s.withSession x).findSession id = if x.id = id then some x else s.findSession id :=
  findSession_replaceSession x s.sessions id

theorem replaceSession_of_find {xs : List Session}
    (h : xs.find? (fun y ↦ y.id == x.id) = some x) : replaceSession x xs = xs := by
  induction xs with
  | nil => cases h
  | cons y ys ih =>
    by_cases hy : y.id = x.id
    · simp only [hy, List.find?_cons, BEq.rfl, Option.some.injEq] at h
      simp [replaceSession, h]
    · simp only [List.find?_cons, beq_eq_false_iff_ne.2 hy] at h
      simp [replaceSession, hy, ih h]

theorem withSession_of_findSession (h : s.findSession id = some x) : s.withSession x = s := by
  have hx := id_of_findSession h
  rw [withSession, replaceSession_of_find (hx ▸ h)]

theorem putSession_eq_ok : s.putSession x = .ok s' ↔
    (∃ u, s.findUser x.user.id = some u) ∧ s' = s.withSession x := by
  unfold putSession
  cases s.findUser x.user.id <;> simp [withSession, eq_comm]

theorem insertUser_eq_ok {name : String} {u : User} : s.insertUser name = .ok (u, s') ↔
    s.findUserByName name = none ∧ u = ⟨⟨s.lastUser + 1⟩, name⟩ ∧
      s' = { s with users := s.users ++ [u], lastUser := s.lastUser + 1 } := by
  unfold insertUser
  cases s.findUserByName name with
  | none =>
    simp only [Except.ok.injEq, Prod.mk.injEq, true_and]
    constructor <;> (rintro ⟨rfl, rfl⟩; exact ⟨rfl, rfl⟩)
  | some v => simp

theorem insertCredential_eq_ok {c : Credential} {i : CredentialId} :
    s.insertCredential c = .ok (i, s') ↔
      (∃ u, s.findUser c.user.id = some u) ∧
      (∀ d ∈ s.credentials, d.credentialId ≠ c.credentialId) ∧ i = ⟨s.lastCredential + 1⟩ ∧
      s' = { s with
        credentials := s.credentials ++ [{ c with id := i }]
        lastCredential := s.lastCredential + 1 } := by
  unfold insertCredential
  cases s.findUser c.user.id with
  | none => simp
  | some u =>
    cases hc : s.credentials.any fun d ↦ d.credentialId == c.credentialId with
    | true =>
      obtain ⟨d, hd, he⟩ := List.any_eq_true.1 hc
      simp only [Option.some.injEq, exists_eq', if_true, reduceCtorEq, true_and, false_iff]
      exact fun h ↦ h.1 d hd (by simpa using he)
    | false =>
      have hn : ∀ d ∈ s.credentials, d.credentialId ≠ c.credentialId := by simpa using hc
      simp only [Bool.false_eq_true, if_false, Except.ok.injEq, Prod.mk.injEq, Option.some.injEq,
        exists_eq', true_and]
      constructor
      · intro h₀
        obtain ⟨rfl, rfl⟩ := h₀
        exact ⟨hn, rfl, rfl⟩
      · intro h₀
        obtain ⟨-, rfl, rfl⟩ := h₀
        exact ⟨rfl, rfl⟩

theorem live_eq_ok : s.live id now = .ok x ↔
    id.isZero = false ∧ s.findSession id = some x ∧ x.isLive now := by
  unfold live
  cases hid : id.isZero with
  | true => simp
  | false =>
    cases s.findSession id with
    | none => simp
    | some y =>
      have hl : y.isLive now = (!y.expiresAt.atMost now && !now.before y.createdAt) := by
        simp [Session.isLive, Instant.atMost, Bool.and_comm]
      have hy : (y = x ∧ x.isLive now) ↔ (y = x ∧ y.isLive now) := by
        constructor <;> (rintro ⟨rfl, h⟩; exact ⟨rfl, h⟩)
      simp only [Option.some.injEq, hy, hl]
      cases y.expiresAt.atMost now <;> cases now.before y.createdAt <;> simp

theorem findSession_insertUser {name : String} {u : User} (h : s.insertUser name = .ok (u, s')) :
    s'.findSession id = s.findSession id := by
  obtain ⟨-, -, rfl⟩ := insertUser_eq_ok.1 h
  rfl

theorem findSession_insertCredential {c : Credential} {i : CredentialId}
    (h : s.insertCredential c = .ok (i, s')) : s'.findSession id = s.findSession id := by
  obtain ⟨-, -, -, rfl⟩ := insertCredential_eq_ok.1 h
  rfl

theorem findSession_setSignCount (s : State) (i : CredentialId) (n : Nat) :
    (s.setSignCount i n).2.findSession id = s.findSession id := by
  unfold setSignCount
  split <;> rfl

theorem signCount_eq_some {i : CredentialId} {n : Nat} : s.signCount i = some n ↔
    ∃ c, s.findCredential i = some c ∧ c.deletedAt.isNone ∧ c.signCount = n := by
  unfold signCount
  cases s.findCredential i <;> simp

theorem findCredential_setSignCount {i : CredentialId} {n : Nat} (h : s.signCount i = some n)
    (m : Nat) (j : CredentialId) : (s.setSignCount i m).2.findCredential j =
      (s.findCredential j).map fun c ↦ if c.id = i then { c with signCount := m } else c := by
  have hkey : ((fun c ↦ c.id == j) ∘ fun c : Credential ↦
      if c.id = i then { c with signCount := m } else c) = fun c ↦ c.id == j := by
    funext c
    by_cases hc : c.id = i <;> simp [hc]
  simp only [setSignCount, h, findCredential, List.find?_map, hkey]

theorem signCount_setSignCount {i : CredentialId} {n : Nat} (h : s.signCount i = some n) (m : Nat)
    (j : CredentialId) :
    (s.setSignCount i m).2.signCount j = if j = i then some m else s.signCount j := by
  have hf := findCredential_setSignCount h m j
  by_cases hj : j = i
  · subst hj
    obtain ⟨c, hc, hd, -⟩ := signCount_eq_some.1 h
    have hid : c.id = j := by simpa using List.find?_some hc
    rw [hc, Option.map_some, if_pos hid] at hf
    rw [if_pos rfl]
    exact signCount_eq_some.2 ⟨_, hf, hd, rfl⟩
  · rw [if_neg hj]
    cases hc : s.findCredential j with
    | none =>
      rw [hc] at hf
      simp [signCount, hc, hf]
    | some c =>
      have hid : c.id = j := by simpa using List.find?_some hc
      rw [hc, Option.map_some, if_neg (hid ▸ hj)] at hf
      simp [signCount, hc, hf]

theorem live_congr (h : s'.findSession id = s.findSession id) : s'.live id now = s.live id now := by
  rw [live, live, h]

theorem live_of_ended (hi : id.isZero = false) (hx : s.findSession id = some x)
    (he : x.expiresAt.atMost now) : s.live id now = .error .sessionExpired := by
  simp [live, hi, hx, he]

end State

namespace Work

variable {α : Type} {t t' : Transaction} {id : SessionId} {now : Instant}

@[simp] theorem demand_some_apply (e : StoreError) (a : α) (t : Transaction) :
    demand e (some a) t = (.ok a, t) := rfl

theorem read_apply (ht : t.isOpen) (f : State → α) : read f t = (.ok (f t.working), t) := by
  simp [read, ht]

/-- What is written is written as a whole, and only where that is allowed. -/
theorem write_cases (ht : t.isOpen) (f : State → Except StoreError (α × State)) :
    (∃ e, write f t = (.error e, t)) ∨
    (∃ a s, f t.working = .ok (a, s) ∧ write f t = (.ok a, { t with working := s })) := by
  unfold write
  rw [if_pos ht]
  cases t.access with
  | readOnly => exact .inl ⟨_, rfl⟩
  | readWrite =>
    cases hf : f t.working with
    | error e => exact .inl ⟨e, rfl⟩
    | ok p => exact .inr ⟨p.1, p.2, rfl, rfl⟩

theorem access_of_write {f : State → Except StoreError (α × State)} {a : α}
    (h : write f t = (.ok a, t')) : t.access = .readWrite := by
  unfold write at h
  split_ifs at h
  · cases ha : t.access with
    | readOnly => simp [ha] at h
    | readWrite => rfl
  · cases h

theorem read_of_ended (ht : t.isOpen = false) (f : State → α) :
    read f t = (.error .finished, t) := by
  simp [read, ht]

theorem write_of_ended (ht : t.isOpen = false) (f : State → Except StoreError (α × State)) :
    write f t = (.error .finished, t) := by
  simp [write, ht]

theorem putSession_cases (ht : t.isOpen) (x : Session) :
    (∃ e, putSession x t = (.error e, t)) ∨
    (∃ u, t.working.findUser x.user.id = some u) ∧
      putSession x t = (.ok (), { t with working := t.working.withSession x }) := by
  rcases write_cases ht (fun s ↦ (s.putSession x).map fun s ↦ ((), s)) with h | ⟨_, s, hs, h⟩
  · exact .inl h
  · cases hp : t.working.putSession x with
    | error e => simp [hp, Except.map] at hs
    | ok s' =>
      obtain ⟨hu, rfl⟩ := State.putSession_eq_ok.1 hp
      simp only [hp, Except.map, Except.ok.injEq, Prod.mk.injEq, true_and] at hs
      exact .inr ⟨hu, by rw [putSession, h, hs]⟩

theorem putSession_of_stored (ht : t.isOpen) (ha : t.access = .readWrite) {x : Session} {u : User}
    (hu : t.working.findUser x.user.id = some u) :
    putSession x t = (.ok (), { t with working := t.working.withSession x }) := by
  have hp : t.working.putSession x = .ok (t.working.withSession x) :=
    State.putSession_eq_ok.2 ⟨⟨u, hu⟩, rfl⟩
  simp [putSession, write, ht, ha, hp, Except.map]

theorem lookupSession_apply (ht : t.isOpen) (id : SessionId) (now : Instant) :
    lookupSession id now t = (t.working.live id now, t) := by
  unfold lookupSession State.live
  cases id.isZero with
  | true => rfl
  | false =>
    simp only [Bool.false_eq_true, if_false, bind_apply, findSession, read_apply ht]
    cases t.working.findSession id with
    | none => rfl
    | some x =>
      simp only [demand_some_apply]
      cases x.expiresAt.atMost now <;> cases now.before x.createdAt <;> rfl

theorem untaintSession_of_error (ht : t.isOpen) (taint : String) {e : StoreError}
    (h : t.working.live id now = .error e) : untaintSession id taint now t = (.error e, t) := by
  simp only [untaintSession, bind_apply, lookupSession_apply ht, h]

theorem untaintSession_cases (ht : t.isOpen) (id : SessionId) (taint : String) (now : Instant) :
    (∃ e, untaintSession id taint now t = (.error e, t)) ∨
    ∃ x, t.working.live id now = .ok x ∧
      untaintSession id taint now t = (.ok (x.untaint taint).2,
        { t with working := t.working.withSession (x.untaint taint).2 }) := by
  cases hx : t.working.live id now with
  | error e => exact .inl ⟨e, untaintSession_of_error ht taint hx⟩
  | ok x =>
    simp only [untaintSession, bind_apply, lookupSession_apply ht, hx]
    have hf := (State.live_eq_ok.1 hx).2.1
    cases hc : x.taints.contains taint with
    | true =>
      obtain ⟨y, hy⟩ : ∃ y, x.untaint taint = (true, y) := ⟨_, by rw [← hc]; rfl⟩
      simp only [hy, bind_apply]
      rcases putSession_cases ht y with ⟨e, h⟩ | ⟨-, h⟩
      · exact .inl ⟨e, by rw [h]⟩
      · exact .inr ⟨x, rfl, by rw [h, hy]; rfl⟩
    | false =>
      have hu : x.untaint taint = (false, x) := by
        rw [Session.untaint, hc, Taints.remove_of_not_contains hc]
      refine .inr ⟨x, rfl, ?_⟩
      simp only [hu, State.withSession_of_findSession hf, pure_apply]

theorem revokeSession_cases (ht : t.isOpen) (id : SessionId) (reason : String) (now : Instant) :
    (∃ e, revokeSession id reason now t = (.error e, t)) ∨
    id.isZero = false ∧ ∃ x, t.working.findSession id = some x ∧
      revokeSession id reason now t =
        (.ok (), { t with working := t.working.withSession (x.revoke reason now).2 }) := by
  unfold revokeSession
  cases hid : id.isZero with
  | true => exact .inl ⟨_, rfl⟩
  | false =>
    simp only [Bool.false_eq_true, if_false, bind_apply, findSession, read_apply ht]
    cases hf : t.working.findSession id with
    | none => exact .inl ⟨_, rfl⟩
    | some x =>
      simp only [demand_some_apply]
      cases he : x.expiresAt.atMost now with
      | true =>
        have hr : x.revoke reason now = (false, x) := by rw [Session.revoke, if_pos he]
        refine .inr ⟨trivial, x, rfl, ?_⟩
        simp only [hr, State.withSession_of_findSession hf, pure_apply]
      | false =>
        obtain ⟨y, hy⟩ : ∃ y, x.revoke reason now = (true, y) := by
          simp [Session.revoke, he]
        simp only [hy]
        rcases putSession_cases ht y with ⟨e, h⟩ | ⟨-, h⟩
        · exact .inl ⟨e, h⟩
        · exact .inr ⟨trivial, x, rfl, by rw [h, hy]⟩

theorem revokeSession_of_stored {x : Session} {u : User} (ht : t.isOpen)
    (ha : t.access = .readWrite) (hid : id.isZero = false) (hx : t.working.findSession id = some x)
    (hu : t.working.findUser x.user.id = some u) (reason : String) (now : Instant) :
    revokeSession id reason now t =
      (.ok (), { t with working := t.working.withSession (x.revoke reason now).2 }) := by
  have hput := putSession_of_stored ht ha (x := (x.revoke reason now).2) (u := u)
    (by rw [Session.revoke_user, hu])
  simp only [revokeSession, hid, Bool.false_eq_true, if_false, bind_apply, findSession,
    read_apply ht, hx, demand_some_apply]
  rcases hr : x.revoke reason now with ⟨_ | _, y⟩
  · have hy : y = x := by
      unfold Session.revoke at hr
      split at hr <;> cases hr
      rfl
    rw [hy, State.withSession_of_findSession hx]
    rfl
  · rw [hr] at hput
    exact hput

theorem upsertSession_cases (ht : t.isOpen) (x : Session) :
    (∃ e, upsertSession x t = (.error e, t)) ∨
    x.id.isZero = false ∧ x.user.id.isAssigned ∧
      (∃ u, t.working.findUser x.user.id = some u) ∧
      upsertSession x t = (.ok (), { t with working := t.working.withSession x }) := by
  unfold upsertSession
  cases hid : x.id.isZero with
  | true => exact .inl ⟨_, rfl⟩
  | false =>
    cases hu : x.user.id.isAssigned with
    | false => exact .inl ⟨_, rfl⟩
    | true =>
      rcases putSession_cases ht x with ⟨e, h⟩ | ⟨hu, h⟩
      · exact .inl ⟨e, h⟩
      · exact .inr ⟨rfl, rfl, hu, h⟩

theorem createUser_cases (ht : t.isOpen) (username : String) :
    (∃ e, createUser username t = (.error e, t)) ∨
    ∃ u s, Text.trimmed username ≠ "" ∧
      t.working.insertUser (Text.trimmed username) = .ok (u, s) ∧
      createUser username t = (.ok u, { t with working := s }) := by
  unfold createUser
  by_cases hn : Text.trimmed username = ""
  · exact .inl ⟨_, by rw [if_pos hn]; rfl⟩
  · simp only [hn, if_false, bind_apply, findUserByName, read_apply ht]
    cases t.working.findUserByName (Text.trimmed username) with
    | some u => exact .inl ⟨_, rfl⟩
    | none =>
      rcases write_cases ht (fun s ↦ s.insertUser (Text.trimmed username)) with
        ⟨e, h⟩ | ⟨u, s, hs, h⟩
      · exact .inl ⟨e, h⟩
      · exact .inr ⟨u, s, hn, hs, h⟩

theorem addCredential_cases (ht : t.isOpen) (c : Credential) :
    (∃ e, addCredential c t = (.error e, t)) ∨
    ∃ i s, c.id.number = 0 ∧ c.credentialId ≠ [] ∧ c.publicKey ≠ [] ∧ c.user.id.isAssigned ∧
      c.createdBy.isZero = false ∧ t.working.insertCredential c = .ok (i, s) ∧
      addCredential c t = (.ok i, { t with working := s }) := by
  unfold addCredential
  split_ifs with hi hc hp hu hb
  iterate 5 exact .inl ⟨_, rfl⟩
  rcases write_cases ht (fun s ↦ s.insertCredential c) with ⟨e, h⟩ | ⟨i, s, hs, h⟩
  · exact .inl ⟨e, h⟩
  · have hi : c.id.number = 0 := by omega
    exact .inr ⟨i, s, hi, hc, hp, by simpa using hu, by simpa using hb, hs, h⟩

theorem checkSignCount_cases (ht : t.isOpen) (c : Credential) :
    (∃ e, checkSignCount c t = (.error e, t)) ∨
    ∃ n, t.working.signCount c.id = some n ∧ counterFollows n c.signCount ∧
      checkSignCount c t =
        (.ok (), { t with working := (t.working.setSignCount c.id c.signCount).2 }) := by
  unfold checkSignCount advanceCounter signCount
  simp only [read_apply ht]
  cases hn : t.working.signCount c.id with
  | none => exact .inl ⟨_, rfl⟩
  | some n =>
    cases hf : counterFollows n c.signCount with
    | false => exact .inl ⟨_, by simp [hf]; rfl⟩
    | true =>
      simp only [hf, if_true]
      rcases write_cases ht (fun s ↦ .ok (s.setSignCount c.id c.signCount)) with
        ⟨e, h⟩ | ⟨rows, s, hs, h⟩
      · exact .inl ⟨e, by rw [setSignCount, h]⟩
      · have hr : (t.working.setSignCount c.id c.signCount).1 = 1 := by
          simp [State.setSignCount, hn]
        simp only [Except.ok.injEq] at hs
        refine .inr ⟨n, rfl, hf, ?_⟩
        simp only [hs] at hr
        rw [setSignCount, h, hs]
        simp [hr]

theorem checkSignCount_of_stale (ht : t.isOpen) {c : Credential} {n : Nat}
    (hn : t.working.signCount c.id = some n) (hf : counterFollows n c.signCount = false) :
    checkSignCount c t = (.error (.counterNotIncreased n c.signCount), t) := by
  simp only [checkSignCount, advanceCounter, signCount, read_apply ht, hn, hf, Bool.false_eq_true,
    if_false]

end Work

end Gatehouse
