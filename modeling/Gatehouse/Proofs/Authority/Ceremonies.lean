import Mathlib.Logic.Relation
import Gatehouse.Proofs.Authority.Calls
import Gatehouse.Proofs.Authority.Statements

namespace Gatehouse

open Surroundings (Same SameRows Undrawn)

abbrev State.Revokes (now : Instant) : State → State → Prop :=
  Relation.ReflTransGen fun s s' ↦ ∃ id reason x, id.isZero = false ∧
    s.findSession id = some x ∧ s' = s.withSession (x.revoke reason now).2

namespace State

variable {now : Instant} {s s' : State} {id : SessionId} {x y : Session}

theorem Revokes.findSession_of_some (h : Revokes now s s') (hx : s.findSession id = some x) :
    ∃ y, s'.findSession id = some y ∧ y.taints = x.taints ∧ y.user = x.user := by
  induction h with
  | refl => exact ⟨x, hx, rfl, rfl⟩
  | tail _ hs ih =>
    obtain ⟨y, hy, ht, hu⟩ := ih
    obtain ⟨j, reason, z, -, hz, rfl⟩ := hs
    rw [findSession_withSession, Session.revoke_id, id_of_findSession hz]
    split
    · next hj =>
      obtain rfl : z = y := Option.some.inj (hz.symm.trans (hj ▸ hy))
      exact ⟨_, rfl, by rw [Session.revoke_taints, ht], by rw [Session.revoke_user, hu]⟩
    · exact ⟨y, hy, ht, hu⟩

theorem Revokes.findSession_of_none (h : Revokes now s s') (hx : s.findSession id = none) :
    s'.findSession id = none := by
  induction h with
  | refl => exact hx
  | tail _ hs ih =>
    obtain ⟨j, reason, z, -, hz, rfl⟩ := hs
    rw [findSession_withSession, Session.revoke_id, id_of_findSession hz, if_neg]
    · exact ih
    · rintro rfl
      rw [hz] at ih
      cases ih

theorem Revokes.origin (h : Revokes now s s') (hy : s'.findSession id = some y) :
    ∃ x, s.findSession id = some x ∧ y.user = x.user := by
  cases hx : s.findSession id with
  | none =>
    rw [h.findSession_of_none hx] at hy
    cases hy
  | some x =>
    obtain ⟨z, hz, -, hu⟩ := h.findSession_of_some hx
    rw [hy, Option.some.injEq] at hz
    exact ⟨x, rfl, hz ▸ hu⟩

/-- A stored session has lost a taint, and all others are as they were. -/
structure Untaints (s s' : State) (x : Session) (taint : String) : Prop where
  stored : s.findSession x.id = some x
  findSession (id : SessionId) :
    s'.findSession id = if x.id = id then some (x.untaint taint).2 else s.findSession id

theorem Untaints.findSession_of_some {z : Session} {taint : String} (h : Untaints s s' z taint)
    (hx : s.findSession id = some x) : s'.findSession id = some x ∨
      z = x ∧ s'.findSession id = some (x.untaint taint).2 := by
  rw [h.findSession]
  by_cases hz : z.id = id
  · obtain rfl : z = x := Option.some.inj (h.stored.symm.trans (hz ▸ hx))
    exact .inr ⟨rfl, if_pos hz⟩
  · exact .inl ((if_neg hz).trans hx)

theorem Untaints.origin {z : Session} {taint : String} (h : Untaints s s' z taint)
    (hy : s'.findSession id = some y) : ∃ x, s.findSession id = some x ∧ y.user = x.user := by
  rw [h.findSession] at hy
  by_cases hz : z.id = id
  · rw [if_pos hz, Option.some.injEq] at hy
    exact ⟨z, hz ▸ h.stored, hy ▸ rfl⟩
  · rw [if_neg hz] at hy
    exact ⟨y, hy, rfl⟩

end State

theorem validateClientData_eq_ok {json : Octets} {c : Ceremony} {id : SessionId} {origin : String}
    {d : ClientData} (h : validateClientData json c id origin = .ok d) :
    d.kind = c.kind ∧ d.challenge = id.text ∧ d.origin = origin ∧ d.crossOrigin = false :=
  (ClientData.validate_eq_ok_iff.1 h).2

namespace Work

variable {t t' : Transaction} {id : SessionId} {taint : String} {now : Instant} {y : Session}

theorem bind_of_ok {α β : Type} {w : Work α} {f : α → Work β} {b : β}
    (h : (w >>= f) t = (.ok b, t')) : ∃ a t₁, w t = (.ok a, t₁) ∧ f a t₁ = (.ok b, t') := by
  rw [bind_apply] at h
  rcases hw : w t with ⟨_ | a, t₁⟩
  · rw [hw] at h
    cases h
  · rw [hw] at h
    exact ⟨a, t₁, rfl, h⟩

theorem demand_of_ok {α : Type} {e : StoreError} {a? : Option α} {a : α}
    (h : demand e a? t = (.ok a, t')) : a? = some a := by
  cases a? with
  | none => cases h
  | some b => exact congrArg some (Except.ok.inj (Prod.mk.inj h).1)

theorem mem_of_lookupUser (ht : t.isOpen) {i : UserId} {u : User}
    (h : lookupUser i t = (.ok u, t')) : u ∈ t.working.users := by
  simp only [lookupUser, findUser, bind_apply, read_apply ht] at h
  exact List.mem_of_find?_eq_some (demand_of_ok h)

theorem mem_of_lookupUserByName (ht : t.isOpen) {name : String} {u : User}
    (h : lookupUserByName name t = (.ok u, t')) : u ∈ t.working.users := by
  simp only [lookupUserByName, findUserByName, bind_apply, read_apply ht] at h
  exact List.mem_of_find?_eq_some (demand_of_ok h)

theorem untaintSession_of_ok (ht : t.isOpen)
    (h : untaintSession id taint now t = (.ok y, t')) :
    ∃ z, t.working.live id now = .ok z ∧ y = (z.untaint taint).2 ∧
      t'.working = t.working.withSession (z.untaint taint).2 := by
  rcases untaintSession_cases ht id taint now with ⟨e, hu⟩ | ⟨z, hz, hu⟩
  · rw [hu] at h
    cases h
  · rw [hu] at h
    cases h
    exact ⟨z, hz, rfl, rfl⟩

theorem countAndUntaint_of_ok (ht : t.isOpen) {c : Credential}
    (h : (do checkSignCount c; untaintSession id taint now : Work Session) t = (.ok y, t')) :
    ∃ n z, t.working.signCount c.id = some n ∧ counterFollows n c.signCount ∧
      t.working.live id now = .ok z ∧ y = (z.untaint taint).2 ∧ t'.working =
        (t.working.setSignCount c.id c.signCount).2.withSession (z.untaint taint).2 := by
  obtain ⟨_, t₁, hc, hu⟩ := bind_of_ok h
  rcases checkSignCount_cases ht c with ⟨e, hw⟩ | ⟨n, hn, hf, hw⟩
  · rw [hw] at hc
    cases hc
  · rw [hw] at hc
    cases hc
    obtain ⟨z, hz, hy, hs⟩ := untaintSession_of_ok (by exact ht) hu
    rw [State.live_congr (State.findSession_setSignCount _ _ _)] at hz
    exact ⟨n, z, hn, hf, hz, hy, hs⟩

theorem addAndUntaint_of_ok (ht : t.isOpen) {c : Credential}
    (h : (do let _ ← addCredential c; untaintSession id taint now : Work Session) t =
      (.ok y, t')) :
    ∃ i s z, t.working.insertCredential c = .ok (i, s) ∧ t.working.live id now = .ok z ∧
      y = (z.untaint taint).2 ∧ t'.working = s.withSession (z.untaint taint).2 := by
  obtain ⟨_, t₁, hc, hu⟩ := bind_of_ok h
  rcases addCredential_cases ht c with ⟨e, hw⟩ | ⟨i, s, -, -, -, -, -, hi, hw⟩
  · rw [hw] at hc
    cases hc
  · rw [hw] at hc
    cases hc
    obtain ⟨z, hz, hy, hs⟩ := untaintSession_of_ok (by exact ht) hu
    rw [State.live_congr (State.findSession_insertCredential hi)] at hz
    exact ⟨_, s, z, hi, hz, hy, hs⟩

end Work

namespace Purpose

variable {p : Purpose} {retry : RetryPolicy} {u : User} {m : Metadata} {s : Surroundings}

theorem mint_of_not_drawn {err : SessionIdError} {e : Entropy} (hu : u.id.isAssigned)
    (hd : SessionId.draw s.entropy = (.error err, e)) :
    p.mint retry u m s = (.error (.session err), { s with entropy := e }) := by
  rw [mint, if_pos hu]
  simp only [Deed.bind_apply, Deed.now, Deed.drawing, Session.issue, hd]
  rfl

theorem mint_of_drawn {id : SessionId} {e : Entropy} (hu : u.id.isAssigned)
    (hd : SessionId.draw s.entropy = (.ok id, e)) :
    let x : Session := ⟨id, u, s.now, s.now.after p.lifetime, .ofList [p.taint], m⟩
    let q := Deed.write retry (fun _ ↦ Work.upsertSession x) { s with entropy := e }
    p.mint retry u m s = ((q.1.mapError .store).map fun _ ↦ x, q.2) := by
  rw [mint, if_pos hu]
  simp only [Deed.bind_apply, Deed.now, Deed.drawing, Session.issue, hd]
  generalize Deed.write retry (fun _ ↦ Work.upsertSession _) _ = q
  rcases q with ⟨_ | _, _⟩ <;> rfl

end Purpose

structure Ends (s s' : Surroundings) : Prop where
  now : s'.now = s.now
  revokes : State.Revokes s.now s.database.committed s'.database.committed

instance : IsPreorder Surroundings Ends where
  refl _ := ⟨rfl, .refl⟩
  trans _ _ _ h h' := ⟨h'.now.trans h.now, h.revokes.trans (h.now ▸ h'.revokes)⟩

namespace Authority

/-- A session has been made for a purpose, under the id that was drawn. -/
structure Mints (p : Purpose) (s : Surroundings) (x : Session) : Prop where
  drawn : (SessionId.draw s.entropy).1 = .ok x.id
  not_zero : x.id.isZero = false
  taints : x.taints = .ofList [p.taint]
  assigned : x.user.id.isAssigned
  user : x.user ∈ s.database.committed.users
  created : x.createdAt = s.now
  ends : x.expiresAt = s.now.after p.lifetime

/-- At most one session has been made. -/
def MayMint (p : Purpose) (s : Surroundings) (s' : State) : Prop :=
  s' = s.database.committed ∨ ∃ x, Mints p s x ∧ s' = s.database.committed.withSession x

variable (a : Authority)

theorem mints_of_same {p : Purpose} {s s' : Surroundings} {x : Session} (hs : Same s s') :
    Mints p s' x ↔ Mints p s x := by
  constructor <;> rintro ⟨hd, hz, ht, ha, hu, hc, he⟩
  · exact ⟨hs.entropy ▸ hd, hz, ht, ha, hs.committed ▸ hu, hs.now ▸ hc, hs.now ▸ he⟩
  · exact ⟨hs.entropy ▸ hd, hz, ht, ha, hs.committed ▸ hu, hs.now ▸ hc, hs.now ▸ he⟩

theorem same_mayMint_iff {p : Purpose} {s s' : Surroundings} {s'' : State} (hs : Same s s') :
    MayMint p s' s'' ↔ MayMint p s s'' := by
  simp only [MayMint, mints_of_same hs, hs.committed]

theorem change_cases {α : Type} (what : String) (w : Instant → Work α) (s : Surroundings) :
    (∃ b t s', w s.now (s.database.begin .readWrite) = (.ok b, t) ∧
      (a.change what w).run s = (.ok b, s') ∧ s'.database.committed = t.working ∧ Undrawn s s') ∨
    (∃ e s', (a.change what w).run s = (.error e, s') ∧ Same s s') := by
  rw [change, Call.run_attempt, Deed.write]
  rcases Deed.transact_cases .readWrite a.guard.retry w s with ⟨b, t, hw, -, hr, hc⟩ | ⟨e, hr, hc⟩
  · exact .inl ⟨b, t, _, hw, by rw [hr]; rfl, hc, rfl, rfl⟩
  · exact .inr ⟨Status.ofStore what e, (Deed.transact .readWrite a.guard.retry w s).2,
      by rw [hr]; rfl, ⟨rfl, hc⟩, rfl⟩

theorem createUser_outcome (r : Account) (s : Surroundings) :
    ((a.createUser r).run s).2.database.committed = s.database.committed ∨
    Text.trimmed r.username ≠ "" ∧ ∃ u,
      s.database.committed.insertUser (Text.trimmed r.username) =
        .ok (u, ((a.createUser r).run s).2.database.committed) := by
  unfold createUser
  split
  · exact .inl rfl
  · rcases a.change_cases "update user" (fun _ ↦ Work.createUser r.username) s with
      ⟨b, t, s', hw, hr, hc, -⟩ | ⟨e, s', hr, hs⟩
    · rcases Work.createUser_cases (t := s.database.begin .readWrite) rfl r.username with
        ⟨e, h⟩ | ⟨u, s', hn, hs, h⟩
      · rw [h] at hw
        cases hw
      · rw [h] at hw
        cases hw
        rw [hr, hc]
        exact .inr ⟨hn, _, hs⟩
    · rw [hr]
      exact .inl hs.committed

theorem mint_cases (p : Purpose) {u : User} (m : Metadata) {s : Surroundings}
    (hm : u ∈ s.database.committed.users) :
    (∃ x s', (a.mint p u m).run s = (.ok x, s') ∧ Mints p s x ∧ x.user = u ∧
      s'.database.committed = s.database.committed.withSession x) ∨
    ∃ e s', (a.mint p u m).run s = (.error e, s') ∧ SameRows s s' := by
  rw [mint, Call.run_attempt]
  by_cases hu : u.id.isAssigned
  · rcases hd : SessionId.draw s.entropy with ⟨_ | id, e⟩
    · rw [Purpose.mint_of_not_drawn hu hd]
      exact .inr ⟨_, _, rfl, rfl, rfl⟩
    · rw [Purpose.mint_of_drawn hu hd]
      rcases Deed.transact_cases .readWrite a.guard.retry (fun _ ↦ Work.upsertSession
        ⟨id, u, s.now, s.now.after p.lifetime, .ofList [p.taint], m⟩) { s with entropy := e } with
        ⟨b, t, hw, -, hr, hc⟩ | ⟨_, hr, hc⟩
      · rcases Work.upsertSession_cases (t := s.database.begin .readWrite) rfl
          ⟨id, u, s.now, s.now.after p.lifetime, .ofList [p.taint], m⟩ with
          ⟨_, h⟩ | ⟨hz, ha, -, h⟩
        · rw [h] at hw
          cases hw
        · rw [h] at hw
          cases hw
          dsimp only [Deed.write]
          rw [hr]
          exact .inl ⟨_, _, rfl, ⟨by rw [hd], hz, rfl, ha, hm, rfl, rfl⟩, rfl, hc⟩
      · dsimp only [Deed.write]
        rw [hr]
        exact .inr ⟨_, _, rfl, rfl, hc⟩
  · rw [Purpose.mint, if_neg hu]
    exact .inr ⟨_, s, rfl, refl s⟩

theorem mint_outcome (p : Purpose) {u : User} (m : Metadata) {s : Surroundings}
    (hm : u ∈ s.database.committed.users) :
    MayMint p s ((a.mint p u m).run s).2.database.committed := by
  rcases a.mint_cases p m hm with ⟨x, s', hr, hx, -, hc⟩ | ⟨e, s', hr, hs⟩
  · rw [hr]
    exact .inr ⟨x, hx, hc⟩
  · rw [hr]
    exact .inl hs.committed

theorem inviteUser_outcome (target : Account) (m : Metadata) (s : Surroundings) :
    MayMint .enrollment s ((a.inviteUser target m).run s).2.database.committed := by
  have hc : Call.Keeps Same (a.consult "lookup target user" fun _ ↦
      if target.id ≠ 0 then Work.lookupUser ⟨target.id⟩
      else Work.lookupUserByName target.username) := by
    refine a.consult_same _ fun _ ↦ ?_
    split
    · exact .lookupUser _
    · exact .lookupUserByName _
  refine hc.run_bind_same (Q := fun r ↦ MayMint .enrollment s r.2.database.committed)
    (fun _ _ hs ↦ .inl hs.committed) fun u s' hs hu ↦ ?_
  obtain ⟨t, ht⟩ := a.consult_of_ok hu
  have hm : u ∈ s.database.committed.users := by
    split at ht
    · exact Work.mem_of_lookupUser rfl ht
    · exact Work.mem_of_lookupUserByName rfl ht
  exact (same_mayMint_iff hs).1 (a.mint_outcome .enrollment m (hs.committed ▸ hm))

/-- A login is started for a user who has credentials, or not at all. -/
theorem startLogin_cases (username : String) (m : Metadata) (s : Surroundings) :
    (∃ x cs s', (a.startLogin username m).run s = (.ok (x, cs), s') ∧ Mints .login s x ∧
      cs = s.database.committed.listCredentials x.user ∧ cs ≠ [] ∧
      s'.database.committed = s.database.committed.withSession x) ∨
    ∃ e s', (a.startLogin username m).run s = (.error e, s') ∧ SameRows s s' := by
  have hc : Call.Keeps Same (a.consult "validate username" fun _ ↦ do
      let user ← Work.lookupUserByName username
      return (user, ← Work.listCredentials user)) :=
    a.consult_same _ fun _ ↦ (Work.Reads.lookupUserByName _).bind fun u ↦
      (Work.Reads.listCredentials u).bind fun _ ↦ .pure _
  refine hc.run_bind_same (Q := fun q ↦ (∃ x cs s', q = (.ok (x, cs), s') ∧ Mints .login s x ∧
      cs = s.database.committed.listCredentials x.user ∧ cs ≠ [] ∧
      s'.database.committed = s.database.committed.withSession x) ∨
    ∃ e s', q = (.error e, s') ∧ SameRows s s')
    (fun e s' hs ↦ .inr ⟨e, s', rfl, hs.toSameRows⟩) fun r s₁ hs hr ↦ ?_
  obtain ⟨u, cs⟩ := r
  obtain ⟨t, ht⟩ := a.consult_of_ok hr
  obtain ⟨v, t₁, hv, ht⟩ := Work.bind_of_ok ht
  obtain ⟨ds, t₂, hds, ht⟩ := Work.bind_of_ok ht
  obtain ⟨rfl, rfl⟩ : v = u ∧ ds = cs := Prod.mk.inj (Except.ok.inj (Prod.mk.inj ht).1)
  have ht₁ : t₁ = s.database.begin .readOnly := by
    have hreads := Work.Reads.lookupUserByName username (s.database.begin .readOnly)
    rw [hv] at hreads
    exact hreads
  rw [ht₁, Work.listCredentials, Work.read_apply rfl] at hds
  have hm : v ∈ s₁.database.committed.users :=
    hs.committed ▸ Work.mem_of_lookupUserByName rfl hv
  dsimp only
  by_cases he : ds.isEmpty
  · rw [if_pos he]
    exact .inr ⟨_, s₁, rfl, hs.toSameRows⟩
  · rw [if_neg he, Call.run_bind]
    rcases a.mint_cases .login m hm with ⟨x, s', hr, hx, rfl, hc⟩ | ⟨e, s', hr, hs'⟩
    · rw [hr]
      refine .inl ⟨x, ds, s', rfl, (mints_of_same hs).1 hx, ?_, ?_, hs.committed ▸ hc⟩
      · cases hds
        rfl
      · rintro rfl
        exact he rfl
    · rw [hr]
      exact .inr ⟨e, s', rfl, IsTrans.trans _ _ _ hs.toSameRows hs'⟩

theorem startLogin_outcome (username : String) (m : Metadata) (s : Surroundings) :
    MayMint .login s ((a.startLogin username m).run s).2.database.committed := by
  rcases a.startLogin_cases username m s with ⟨x, cs, s', hr, hx, -, -, hc⟩ | ⟨e, s', hr, hs⟩
  · rw [hr]
    exact .inr ⟨x, hx, hc⟩
  · rw [hr]
    exact .inl hs.committed

end Authority

end Gatehouse
