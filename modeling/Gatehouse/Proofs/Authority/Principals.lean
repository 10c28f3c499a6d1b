import Mathlib.Data.List.Induction
import Gatehouse.Proofs.Authority.Runs
import Gatehouse.Proofs.Store.Integrity

namespace Gatehouse

open Http (Request)

theorem Transaction.acts_of_addAndUntaint {t t' : Transaction} {c : Credential} {id : SessionId}
    {taint : String} {now : Instant} {y : Session}
    (h : (do let _ ← Work.addCredential c; Work.untaintSession id taint now : Work Session) t =
      (.ok y, t')) : t' = t.acts [(now, .addCredential c), (now, .untaintSession id taint)] := by
  obtain ⟨i, t₁, hc, hu⟩ := Work.bind_of_ok h
  simp only [acts, List.foldl_cons, List.foldl_nil, act, Action.after, hc, hu]

namespace Authority

variable {a : Authority} {r : Request} {s : Surroundings} {s' : State} {x : Session}
variable {vs : List Arrival}

/-- What every effect keeps, and the setting of a counter, is kept by a request. -/
theorem Outcome.keeps {P : State → Prop} (h : a.Outcome r s s') (hP : P s.database.committed)
    (he : ∀ now act s s', P s → Action.Effect now act s s' → P s')
    (hn : ∀ s id n, P s → P (State.setSignCount s id n).2) : P s' := by
  cases h with
  | same => exact hP
  | created hname hu => exact he s.now _ _ _ hP (.created hname hu)
  | @minted p x hp hx =>
    obtain ⟨u, hu⟩ := State.exists_findUser hx.user
    exact he s.now _ _ _ hP (.upserted hx.not_zero hx.assigned hu)
  | revoked hr =>
    induction hr with
    | refl => exact hP
    | tail _ hs ih =>
      obtain ⟨id, reason, x, hid, hx, rfl⟩ := hs
      exact he _ _ _ _ ih (.revoked reason hid hx)
  | enrolled hx =>
    obtain ⟨_, _, _, _, c, t, -, hw, rfl, -⟩ := hx.attested
    rw [Transaction.acts_of_addAndUntaint hw]
    exact (Transaction.acts_keep (t := s.database.begin .readWrite) rfl hP
      fun _ _ _ _ hs hp ↦ he _ _ _ _ hs hp).2
  | @loggedIn x _ hx =>
    obtain ⟨_, _, _, c, n, -, rfl⟩ := hx.vouched
    have hl : (s.database.committed.setSignCount c.id n).2.live x.id s.now = .ok x := by
      rw [State.live_congr (State.findSession_setSignCount _ _ _)]
      exact State.hasLive_iff.1 hx.live
    exact he _ _ _ _ (hn _ _ _ hP) (.untainted Taints.startLogin hl)

theorem Outcome.integrity (h : a.Outcome r s s') (hi : s.database.committed.Integrity) :
    s'.Integrity :=
  h.keeps hi (fun _ _ _ _ hs he ↦ hs.of_effect he) fun _ id n hs ↦ hs.setSignCount id n

theorem Outcome.grows (h : a.Outcome r s s') : s.database.committed.Grows s' :=
  h.keeps (refl _) (fun _ _ _ _ hs he ↦ IsTrans.trans _ _ _ hs (.of_effect he))
    fun s id n hs ↦ IsTrans.trans _ _ _ hs (.setSignCount s id n)

theorem run_integrity (a : Authority) (vs : List Arrival) : (a.run vs).Integrity := by
  induction vs using List.reverseRecOn with
  | nil => exact .empty
  | append_singleton vs v ih =>
    rw [run_concat]
    exact (a.receive_outcome (a.run vs) v).integrity ih

theorem run_grows (a : Authority) (earlier later : List Arrival) :
    (a.run earlier).Grows (a.run (earlier ++ later)) := by
  induction later using List.reverseRecOn with
  | nil =>
    rw [List.append_nil]
    exact refl _
  | append_singleton later v ih =>
    rw [← List.append_assoc, run_concat]
    exact IsTrans.trans _ _ _ ih (a.receive_outcome (a.run (earlier ++ later)) v).grows

theorem user_of_run {id : SessionId} (hx : (a.run vs).findSession id = some x) :
    x.user ∈ (a.run vs).users := by
  induction vs using List.reverseRecOn generalizing x with
  | nil => cases hx
  | append_singleton vs v ih =>
    rw [run_concat] at hx ⊢
    have ho := a.receive_outcome (a.run vs) v
    have hu : x.user ∈ (a.run vs).users := by
      rcases ho.session_origin hx with ⟨p, -, hp⟩ | ⟨y, hy, hyx⟩
      · exact hp.user
      · exact hyx ▸ ih hy
    exact ho.grows.users.subset hu

theorem visitor_of_run (hs : s.database.committed = a.run vs) {p : Papers}
    (hx : (a.guard.resolve p s).1 = .ok x) (hv : x.mayVisit = .ok ()) :
    x = .root ∨ x.user ∈ (a.run vs).users := by
  rcases Guard.resolve_finds hx with rfl | rfl | ⟨id, -, hl⟩
  · exact .inl rfl
  · have ha : Session.anonymous.mayVisit ≠ .ok () := by decide
    exact absurd hv ha
  · rw [hs] at hl
    exact .inr (user_of_run hl.stored)

/-- Visitors who are let in under the same name at any times are the same user, unless one of them
knows the root password and the other one is a stored user of root's name. -/
theorem allowed_name_identifies (a : Authority) (vs : List Arrival)
    {earlier₁ earlier₂ : List Arrival} (h₁ : earlier₁ <+: vs) (h₂ : earlier₂ <+: vs)
    {s₁ s₂ : Surroundings} (hs₁ : s₁.database.committed = a.run earlier₁)
    (hs₂ : s₂.database.committed = a.run earlier₂) {q₁ q₂ : VisitQuery} {name : String}
    {fields₁ fields₂ : List HeaderField}
    (ha₁ : (a.guard.answer a.links a.key q₁ s₁).1 = .ok (some (.allow name fields₁)))
    (ha₂ : (a.guard.answer a.links a.key q₂ s₂).1 = .ok (some (.allow name fields₂))) :
    ∃ x₁ x₂, (a.guard.resolve (Guard.papers q₁) s₁).1 = .ok x₁ ∧
      (a.guard.resolve (Guard.papers q₂) s₂).1 = .ok x₂ ∧
      x₁.user.username = name ∧ x₂.user.username = name ∧
      (x₁.user.id = x₂.user.id ∨ name = "root" ∧
        ((x₁ = .root ∧ x₂.user ∈ (a.run vs).users) ∨
          (x₁.user ∈ (a.run vs).users ∧ x₂ = .root))) := by
  obtain ⟨x₁, hx₁, hv₁, hn₁⟩ := Guard.resolve_of_allow ha₁
  obtain ⟨x₂, hx₂, hv₂, hn₂⟩ := Guard.resolve_of_allow ha₂
  refine ⟨x₁, x₂, hx₁, hx₂, hn₁, hn₂, ?_⟩
  have hsub {earlier : List Arrival} (h : earlier <+: vs) :
      (a.run earlier).users ⊆ (a.run vs).users := by
    obtain ⟨later, rfl⟩ := h
    exact (a.run_grows earlier later).users.subset
  rcases visitor_of_run hs₁ hx₁ hv₁ with rfl | hu₁ <;>
    rcases visitor_of_run hs₂ hx₂ hv₂ with rfl | hu₂
  · exact .inl rfl
  · exact .inr ⟨hn₁.symm, .inl ⟨rfl, hsub h₂ hu₂⟩⟩
  · exact .inr ⟨hn₂.symm, .inr ⟨hsub h₁ hu₁, rfl⟩⟩
  · have hu := (a.run_integrity vs).eq_of_username (hsub h₁ hu₁) (hsub h₂ hu₂) (hn₁.trans hn₂.symm)
    exact .inl (congrArg User.id hu)

section Namesakes

def keyMaker : Verifier where
  attest _ t := .ok ⟨t.attestationObject, [1], [], 0⟩
  vouch _ _ _ := .ok 0

def invited : SessionId := ⟨List.replicate 64 7⟩

def keyFinished : Arrival where
  request := {
    method := "POST"
    target.place := some { path := Operation.finishEnrollment.path }
    headers := [("authorization", invited.authorization), ("content-type", "application/json")]
    body := .ofText "[\"key\",[\"" ++ Base64.symbols .urlSafe (statement .registration invited) ++
      .ofText "\",\"AQ\"]]" }
  now := ⟨3, 0⟩
  verifier := some keyMaker

/-- Root makes a user of root's name, who is invited and registers an authenticator. -/
def namesakeEnrolled : List Arrival := [
  { registration with request := calledByRoot .editUser (Wire.editUser ⟨0, "root"⟩) },
  { enrollment with
    request := calledByRoot .generateEnrollmentLink (Wire.enrollmentTarget ⟨0, "root"⟩) },
  keyFinished]

def namesake : Session :=
  ⟨invited, ⟨⟨1⟩, "root"⟩, ⟨2, 0⟩, ⟨259202, 0⟩, .empty, {}⟩

def namesakeRows : State where
  users := [namesake.user]
  sessions := [namesake]
  credentials := [⟨⟨1⟩, namesake.user, [1], [1], "key", [], 0, ⟨3, 0⟩, invited, none⟩]
  lastUser := 1
  lastCredential := 1

theorem run_namesakeEnrolled : gate.run namesakeEnrolled = namesakeRows := by decide +kernel

def visitWith (authorization : String) : VisitQuery where
  method := "GET"
  requestUri := "https://site.example/"
  authorization := [authorization]

def amongNamesakes (now : Instant) : Surroundings := ⟨now, {}, ⟨namesakeRows, 0⟩⟩

theorem answer_namesake {now : Instant} (h : now = ⟨4, 0⟩ ∨ now = ⟨5, 0⟩) :
    (gate.guard.answer gate.links gate.key (visitWith invited.authorization)
      (amongNamesakes now)).1 = .ok (some (.allow "root" [])) := by
  rcases h with rfl | rfl <;> decide +kernel

theorem allowed_name_identifies_namesake :
    namesakeEnrolled <+: namesakeEnrolled ∧
    (amongNamesakes ⟨4, 0⟩).database.committed = gate.run namesakeEnrolled ∧
    ∃ x₁ x₂, (gate.guard.resolve (Guard.papers (visitWith invited.authorization))
        (amongNamesakes ⟨4, 0⟩)).1 = .ok x₁ ∧
      (gate.guard.resolve (Guard.papers (visitWith invited.authorization))
        (amongNamesakes ⟨5, 0⟩)).1 = .ok x₂ ∧
      x₁.user.username = "root" ∧ x₂.user.username = "root" ∧
      (x₁.user.id = x₂.user.id ∨ (x₁ = .root ∧ x₂.user ∈ (gate.run namesakeEnrolled).users) ∨
        (x₁.user ∈ (gate.run namesakeEnrolled).users ∧ x₂ = .root)) := by
  have hp : namesakeEnrolled <+: namesakeEnrolled := List.prefix_rfl
  have hs (now : Instant) :
      (amongNamesakes now).database.committed = gate.run namesakeEnrolled :=
    run_namesakeEnrolled.symm
  obtain ⟨x₁, x₂, hx₁, hx₂, hn₁, hn₂, hx⟩ := allowed_name_identifies gate namesakeEnrolled hp hp
    (hs ⟨4, 0⟩) (hs ⟨5, 0⟩) (answer_namesake (.inl rfl)) (answer_namesake (.inr rfl))
  exact ⟨hp, hs _, x₁, x₂, hx₁, hx₂, hn₁, hn₂, hx.imp_right And.right⟩

theorem root_has_namesake :
    ¬ ∀ (a : Authority) (vs earlier₁ earlier₂ : List Arrival) (s₁ s₂ : Surroundings)
      (q₁ q₂ : VisitQuery) (name : String) (fields₁ fields₂ : List HeaderField) (x₁ x₂ : Session),
      earlier₁ <+: vs → earlier₂ <+: vs → s₁.database.committed = a.run earlier₁ →
      s₂.database.committed = a.run earlier₂ →
      (a.guard.answer a.links a.key q₁ s₁).1 = .ok (some (.allow name fields₁)) →
      (a.guard.answer a.links a.key q₂ s₂).1 = .ok (some (.allow name fields₂)) →
      (a.guard.resolve (Guard.papers q₁) s₁).1 = .ok x₁ →
      (a.guard.resolve (Guard.papers q₂) s₂).1 = .ok x₂ → x₁.user.id = x₂.user.id := by
  intro h
  have hs : (amongNamesakes ⟨4, 0⟩).database.committed = gate.run namesakeEnrolled :=
    run_namesakeEnrolled.symm
  have hroot : (gate.guard.answer gate.links gate.key (visitWith "root x")
      (amongNamesakes ⟨4, 0⟩)).1 = .ok (some (.allow "root" [])) := by decide +kernel
  have hx : (gate.guard.resolve (Guard.papers (visitWith invited.authorization))
      (amongNamesakes ⟨4, 0⟩)).1 = .ok namesake := by decide +kernel
  have hid := h gate namesakeEnrolled _ _ _ _ _ _ _ _ _ _ _ List.prefix_rfl List.prefix_rfl hs hs
    (answer_namesake (.inl rfl)) hroot hx rfl
  exact absurd hid (by decide)

end Namesakes

end Authority

end Gatehouse
