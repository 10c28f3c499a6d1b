import Mathlib.Data.List.Infix
import Mathlib.Data.List.Nodup
import Gatehouse.Proofs.Store.Dealings
import Gatehouse.Proofs.Text.Splitting

namespace Gatehouse

/-- Numbers that have been given one after the other: they are those from one to the last. -/
def Numbered (last : Int) (numbers : List Int) : Prop :=
  ∃ n : Nat, last = n ∧ numbers = (List.range' 1 n).map Nat.cast

namespace Numbered

variable {last : Int} {numbers : List Int}

theorem start : Numbered 0 [] := ⟨0, rfl, rfl⟩

theorem concat (h : Numbered last numbers) : Numbered (last + 1) (numbers ++ [last + 1]) := by
  obtain ⟨n, rfl, rfl⟩ := h
  refine ⟨n + 1, by omega, ?_⟩
  have hn : ((1 + n : Nat) : Int) = n + 1 := by omega
  rw [List.range'_1_concat, List.map_append, List.map_singleton, hn]

theorem nodup (h : Numbered last numbers) : numbers.Nodup := by
  obtain ⟨n, -, rfl⟩ := h
  exact List.Nodup.map (fun _ _ h ↦ Int.ofNat.inj h) List.nodup_range'

end Numbered

def Credential.uncounted (c : Credential) : Credential := { c with signCount := 0 }

namespace State

variable {s s' : State} {x y : Session} {u : User} {c d : Credential} {id : SessionId}

/-- What is true of the stored rows at any time. -/
structure Integrity (s : State) : Prop where
  user_numbers : Numbered s.lastUser (s.users.map fun u ↦ u.id.number)
  usernames_nodup : (s.users.map User.username).Nodup
  username : ∀ u ∈ s.users, u.username ≠ "" ∧ Text.Unpadded u.username
  session_ids_nodup : (s.sessions.map Session.id).Nodup
  session_id : ∀ x ∈ s.sessions, x.id.octets.length = 64 ∧ ∃ o ∈ x.id.octets, o ≠ 0
  session_owner : ∀ x ∈ s.sessions, ∃ u ∈ s.users, u.id = x.user.id
  credential_numbers : Numbered s.lastCredential (s.credentials.map fun c ↦ c.id.number)
  credential_ids_nodup : (s.credentials.map Credential.credentialId).Nodup
  credential_owner : ∀ c ∈ s.credentials, ∃ u ∈ s.users, u.id = c.user.id
  credential : ∀ c ∈ s.credentials, c.credentialId ≠ [] ∧ c.publicKey ≠ [] ∧
    c.createdBy.octets.length = 64 ∧ ∃ o ∈ c.createdBy.octets, o ≠ 0

/-- Users and credentials have at most been added, and only counters have changed. -/
structure Grows (s s' : State) : Prop where
  users : s.users <+: s'.users
  credentials : s.credentials.map Credential.uncounted <+: s'.credentials.map Credential.uncounted

instance : IsPreorder State Grows where
  refl _ := ⟨List.prefix_rfl, List.prefix_rfl⟩
  trans _ _ _ h h' := ⟨h.users.trans h'.users, h.credentials.trans h'.credentials⟩

theorem mem_of_findUser {i : UserId} (h : s.findUser i = some u) : u ∈ s.users ∧ u.id = i :=
  ⟨List.mem_of_find?_eq_some h, by simpa using List.find?_some h⟩

theorem exists_findUser (h : u ∈ s.users) : ∃ v, s.findUser u.id = some v := by
  rw [← Option.isSome_iff_exists, findUser, List.find?_isSome]
  exact ⟨u, h, beq_self_eq_true u.id⟩

theorem mem_replaceSession {xs : List Session} (h : y ∈ replaceSession x xs) :
    y = x ∨ y ∈ xs := by
  induction xs with
  | nil => exact .inl (List.mem_singleton.1 h)
  | cons z xs ih =>
    unfold replaceSession at h
    split at h
    · rcases List.mem_cons.1 h with rfl | h
      · exact .inl rfl
      · exact .inr (List.mem_cons_of_mem z h)
    · rcases List.mem_cons.1 h with rfl | h
      · exact .inr List.mem_cons_self
      · exact (ih h).imp_right (List.mem_cons_of_mem z)

theorem map_id_replaceSession (x : Session) (xs : List Session) :
    (replaceSession x xs).map Session.id =
      if x.id ∈ xs.map Session.id then xs.map Session.id else xs.map Session.id ++ [x.id] := by
  induction xs with
  | nil => rfl
  | cons y xs ih =>
    unfold replaceSession
    by_cases hy : y.id = x.id
    · simp [hy]
    · by_cases hx : x.id ∈ xs.map Session.id
      · rw [if_pos hx] at ih
        simp [hy, ih, hx]
      · rw [if_neg hx] at ih
        simp [hy, Ne.symm hy, ih, hx]

theorem findSession_of_mem {xs : List Session} (hn : (xs.map Session.id).Nodup) (hx : x ∈ xs) :
    xs.find? (fun y ↦ y.id == x.id) = some x := by
  induction xs with
  | nil => cases hx
  | cons y xs ih =>
    obtain ⟨hy, hn⟩ := List.nodup_cons.1 hn
    rcases List.mem_cons.1 hx with rfl | hx
    · simp
    · have hne : y.id ≠ x.id := fun he ↦ hy (he ▸ List.mem_map_of_mem hx)
      rw [List.find?_cons_of_neg (by simpa using hne), ih hn hx]

theorem map_uncounted_setSignCount (s : State) (i : CredentialId) (n : Nat) :
    (s.setSignCount i n).2.credentials.map Credential.uncounted =
      s.credentials.map Credential.uncounted := by
  unfold setSignCount
  split
  · rfl
  · rw [List.map_map]
    refine List.map_congr_left fun c _ ↦ ?_
    by_cases hc : c.id = i <;> simp [hc, Credential.uncounted]

theorem map_of_map_uncounted {β : Type} {cs ds : List Credential} (g : Credential → β)
    (hg : ∀ c, g c.uncounted = g c)
    (h : cs.map Credential.uncounted = ds.map Credential.uncounted) : cs.map g = ds.map g := by
  have hg' : g ∘ Credential.uncounted = g := funext hg
  rw [← hg', ← List.map_map, h, List.map_map]

theorem forall_of_map_uncounted {P : Credential → Prop} {cs ds : List Credential}
    (hP : ∀ c, P c.uncounted ↔ P c)
    (h : cs.map Credential.uncounted = ds.map Credential.uncounted) (hd : ∀ d ∈ ds, P d) :
    ∀ c ∈ cs, P c := by
  intro c hc
  have hm : c.uncounted ∈ ds.map Credential.uncounted := h ▸ List.mem_map_of_mem hc
  obtain ⟨d, hd', he⟩ := List.mem_map.1 hm
  rw [← hP, ← he, hP]
  exact hd d hd'

namespace Integrity

theorem eq_of_username {v : User} (h : s.Integrity) (hu : u ∈ s.users) (hv : v ∈ s.users)
    (he : u.username = v.username) : u = v := List.inj_on_of_nodup_map h.usernames_nodup hu hv he

theorem empty : Integrity {} := by
  refine ⟨.start, ?_, ?_, ?_, ?_, ?_, .start, ?_, ?_, ?_⟩ <;> simp

theorem withSession (h : s.Integrity) (hx : x.id.isZero = false)
    (hu : ∃ u ∈ s.users, u.id = x.user.id) : (s.withSession x).Integrity := by
  have hids : ((replaceSession x s.sessions).map Session.id).Nodup := by
    rw [map_id_replaceSession]
    split
    · exact h.session_ids_nodup
    · next hn =>
      rw [← List.concat_eq_append]
      exact h.session_ids_nodup.concat hn
  refine { h with session_ids_nodup := hids, session_id := ?_, session_owner := ?_ }
  · intro y hy
    rcases mem_replaceSession hy with rfl | hy
    · exact SessionId.isZero_eq_false.1 hx
    · exact h.session_id y hy
  · intro y hy
    rcases mem_replaceSession hy with rfl | hy
    · exact hu
    · exact h.session_owner y hy

theorem replace (h : s.Integrity) (hx : s.findSession id = some x) (hy : y.id = x.id)
    (hu : y.user = x.user) : (s.withSession y).Integrity := by
  have hm : x ∈ s.sessions := List.mem_of_find?_eq_some hx
  refine h.withSession ?_ (hu ▸ h.session_owner x hm)
  rw [hy]
  exact SessionId.isZero_eq_false.2 (h.session_id x hm)

theorem insertUser {name : String} (h : s.Integrity) (hn : name ≠ "") (hb : Text.Unpadded name)
    (hs : s.insertUser name = .ok (u, s')) : s'.Integrity := by
  obtain ⟨hf, rfl, rfl⟩ := insertUser_eq_ok.1 hs
  have hnew : name ∉ s.users.map User.username := by
    intro hm
    obtain ⟨v, hv, rfl⟩ := List.mem_map.1 hm
    exact absurd (List.find?_eq_none.1 hf v hv) (by simp)
  have howner (i : UserId) (ho : ∃ u ∈ s.users, u.id = i) :
      ∃ u ∈ s.users ++ [⟨⟨s.lastUser + 1⟩, name⟩], u.id = i := by
    obtain ⟨u, hu, rfl⟩ := ho
    exact ⟨u, List.mem_append_left _ hu, rfl⟩
  refine { h with
    user_numbers := ?_, usernames_nodup := ?_, username := ?_
    session_owner := fun x hx ↦ howner _ (h.session_owner x hx)
    credential_owner := fun c hc ↦ howner _ (h.credential_owner c hc) }
  · rw [List.map_append]
    exact h.user_numbers.concat
  · rw [List.map_append, List.map_singleton, ← List.concat_eq_append]
    exact h.usernames_nodup.concat hnew
  · intro u hu
    rcases List.mem_append.1 hu with hu | hu
    · exact h.username u hu
    · obtain rfl := List.mem_singleton.1 hu
      exact ⟨hn, hb⟩

theorem insertCredential {i : CredentialId} (h : s.Integrity) (hc : c.credentialId ≠ [])
    (hp : c.publicKey ≠ []) (hb : c.createdBy.isZero = false)
    (hs : s.insertCredential c = .ok (i, s')) : s'.Integrity := by
  obtain ⟨⟨u, hu⟩, hd, rfl, rfl⟩ := insertCredential_eq_ok.1 hs
  obtain ⟨hu, hi⟩ := mem_of_findUser hu
  have hnew : c.credentialId ∉ s.credentials.map Credential.credentialId := by
    intro hm
    obtain ⟨d, hd', he⟩ := List.mem_map.1 hm
    exact hd d hd' he
  refine { h with
    credential_numbers := ?_, credential_ids_nodup := ?_, credential_owner := ?_
    credential := ?_ }
  · rw [List.map_append]
    exact h.credential_numbers.concat
  · rw [List.map_append, List.map_singleton, ← List.concat_eq_append]
    exact h.credential_ids_nodup.concat hnew
  · intro d hd
    rcases List.mem_append.1 hd with hd | hd
    · exact h.credential_owner d hd
    · obtain rfl := List.mem_singleton.1 hd
      exact ⟨u, hu, hi⟩
  · intro d hd
    rcases List.mem_append.1 hd with hd | hd
    · exact h.credential d hd
    · obtain rfl := List.mem_singleton.1 hd
      exact ⟨hc, hp, SessionId.isZero_eq_false.1 hb⟩

theorem setSignCount (h : s.Integrity) (i : CredentialId) (n : Nat) :
    (s.setSignCount i n).2.Integrity := by
  have hu := s.map_uncounted_setSignCount i n
  have hs : (s.setSignCount i n).2 =
      { s with credentials := (s.setSignCount i n).2.credentials } := by
    unfold State.setSignCount
    split <;> rfl
  rw [hs]
  refine { h with
    credential_numbers := ?_, credential_ids_nodup := ?_
    credential_owner := forall_of_map_uncounted (fun _ ↦ Iff.rfl) hu h.credential_owner
    credential := forall_of_map_uncounted (fun _ ↦ Iff.rfl) hu h.credential }
  · rw [map_of_map_uncounted (fun c ↦ c.id.number) (fun _ ↦ rfl) hu]
    exact h.credential_numbers
  · rw [map_of_map_uncounted _ (fun _ ↦ rfl) hu]
    exact h.credential_ids_nodup

end Integrity

theorem Integrity.of_effect {now : Instant} {a : Action} (h : s.Integrity)
    (he : a.Effect now s s') : s'.Integrity := by
  cases he with
  | revoked reason _ hx => exact h.replace hx (Session.revoke_id ..) (Session.revoke_user ..)
  | untainted taint hx => exact h.replace (live_eq_ok.1 hx).2.1 rfl rfl
  | upserted hid _ hu => exact h.withSession hid ⟨_, mem_of_findUser hu⟩
  | created hn hs => exact h.insertUser hn (Text.unpadded_trimmed _) hs
  | added hc hp _ hb hs => exact h.insertCredential hc hp hb hs
  | counted _ _ => exact h.setSignCount _ _

theorem Grows.setSignCount (s : State) (i : CredentialId) (n : Nat) :
    s.Grows (s.setSignCount i n).2 := by
  refine ⟨?_, (s.map_uncounted_setSignCount i n) ▸ List.prefix_rfl⟩
  unfold State.setSignCount
  split <;> exact List.prefix_rfl

theorem Grows.of_effect {now : Instant} {a : Action} (he : a.Effect now s s') : s.Grows s' := by
  cases he with
  | revoked | untainted | upserted => exact ⟨List.prefix_rfl, List.prefix_rfl⟩
  | created hn hs =>
    obtain ⟨-, rfl, rfl⟩ := insertUser_eq_ok.1 hs
    exact ⟨List.prefix_append _ _, List.prefix_rfl⟩
  | added hc hp hu hb hs =>
    obtain ⟨-, -, rfl, rfl⟩ := insertCredential_eq_ok.1 hs
    refine ⟨List.prefix_rfl, ?_⟩
    rw [List.map_append]
    exact List.prefix_append _ _
  | counted => exact .setSignCount s _ _

end State

namespace Database

/-- The rows are sound after any transactions, however these end, and whoever has a number
keeps it. -/
theorem integrity_of_deals (xs : List Dealing) :
    let s := (({} : Database).deals xs).committed
    s.Integrity ∧ (∀ x ∈ s.sessions, s.findSession x.id = some x) ∧
      ∀ later, s.Grows (({} : Database).deals (xs ++ later)).committed := by
  intro s
  have hs : s.Integrity := deals_keep .empty fun _ _ _ _ _ _ h he ↦ h.of_effect he
  refine ⟨hs, fun x hx ↦ State.findSession_of_mem hs.session_ids_nodup hx, fun later ↦ ?_⟩
  rw [deals_append]
  refine deals_keep (P := s.Grows) (refl s) fun _ _ _ _ _ _ h he ↦ ?_
  exact IsTrans.trans _ _ _ h (.of_effect he)

end Database

end Gatehouse
