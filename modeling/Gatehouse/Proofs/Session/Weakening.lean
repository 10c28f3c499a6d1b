import Gatehouse.Session

namespace Gatehouse.Session

inductive Step
  | revoke (reason : String) (now : Instant)
  | untaint (name : String)
  deriving DecidableEq, Repr

def step (x : Session) : Step → Bool × Session
  | .revoke reason now => x.revoke reason now
  | .untaint name => x.untaint name

def run (x : Session) (steps : List Step) : Session := steps.foldl (fun x e ↦ (x.step e).2) x

/-- The reasons of the revocations that find the session unexpired. -/
def endings (x : Session) : List Step → List String
  | [] => []
  | .revoke reason now :: steps =>
    let rest := (x.revoke reason now).2.endings steps
    if now.before x.expiresAt then reason :: rest else rest
  | .untaint name :: steps => (x.untaint name).2.endings steps

/-- The second session is the first one, with less time left, fewer taints, and no other reason for
its end. -/
structure Weaker (x y : Session) : Prop where
  id : y.id = x.id
  user : y.user = x.user
  createdAt : y.createdAt = x.createdAt
  userAgent : y.metadata.userAgent = x.metadata.userAgent
  ipAddress : y.metadata.ipAddress = x.metadata.ipAddress
  expiresAt : y.expiresAt.atMost x.expiresAt
  taints : ∀ name, y.hasTaint name → x.hasTaint name
  reason : x.metadata.revocationReason ≠ "" →
    y.metadata.revocationReason = x.metadata.revocationReason

variable {x y z : Session}

@[simp] theorem run_nil (x : Session) : x.run [] = x := rfl

@[simp] theorem run_cons (x : Session) (e : Step) (steps : List Step) :
    x.run (e :: steps) = (x.step e).2.run steps := rfl

theorem run_append (x : Session) (before after : List Step) :
    x.run (before ++ after) = (x.run before).run after := List.foldl_append

namespace Weaker

theorem refl (x : Session) : x.Weaker x :=
  ⟨rfl, rfl, rfl, rfl, rfl, x.expiresAt.atMost_self, fun _ h ↦ h, fun _ ↦ rfl⟩

theorem trans (h : x.Weaker y) (h' : y.Weaker z) : x.Weaker z where
  id := h'.id.trans h.id
  user := h'.user.trans h.user
  createdAt := h'.createdAt.trans h.createdAt
  userAgent := h'.userAgent.trans h.userAgent
  ipAddress := h'.ipAddress.trans h.ipAddress
  expiresAt := Instant.atMost_trans h'.expiresAt h.expiresAt
  taints name hn := h.taints name (h'.taints name hn)
  reason hr := by
    have hy : y.metadata.revocationReason = x.metadata.revocationReason := h.reason hr
    rw [h'.reason (by rwa [hy]), hy]

theorem revoke (x : Session) (reason : String) (now : Instant) :
    x.Weaker (x.revoke reason now).2 := by
  by_cases he : x.expiresAt.atMost now
  · rw [revoke_of_ended he]
    exact refl x
  · have hn : now.before x.expiresAt := Instant.not_atMost.1 he
    rw [revoke_of_live hn]
    exact ⟨rfl, rfl, rfl, rfl, rfl, Instant.atMost_of_before hn, fun _ h ↦ h, fun hr ↦ if_neg hr⟩

theorem untaint (x : Session) (name : String) : x.Weaker (x.untaint name).2 := by
  refine ⟨rfl, rfl, rfl, rfl, rfl, x.expiresAt.atMost_self, fun other h ↦ ?_, fun _ ↦ rfl⟩
  exact ((x.taints.contains_remove name other).1 h).1

theorem step (x : Session) (e : Step) : x.Weaker (x.step e).2 := by
  cases e with
  | revoke reason now => exact revoke x reason now
  | untaint name => exact untaint x name

theorem run (x : Session) (steps : List Step) : x.Weaker (x.run steps) := by
  induction steps generalizing x with
  | nil => exact refl x
  | cons e steps ih => exact (step x e).trans (ih (x.step e).2)

end Weaker

theorem expiresAt_run_revoke (x : Session) (before after : List Step) (reason : String)
    (now : Instant) : (x.run (before ++ .revoke reason now :: after)).expiresAt.atMost now := by
  rw [run_append, run_cons]
  have hends := (x.run before).revoke_ends reason now
  exact Instant.atMost_trans (Weaker.run _ after).expiresAt hends

theorem hasTaint_run (x : Session) (steps : List Step) (name : String) :
    (x.run steps).hasTaint name ↔ x.hasTaint name ∧ Step.untaint name ∉ steps := by
  induction steps generalizing x with
  | nil => simp
  | cons e steps ih =>
    rw [run_cons, ih]
    cases e with
    | revoke reason now => simp [step, hasTaint]
    | untaint other =>
      have h : (x.untaint other).2.hasTaint name ↔ x.hasTaint name ∧ name ≠ other :=
        x.taints.contains_remove other name
      simp only [step, h, List.mem_cons, Step.untaint.injEq, not_or, and_assoc]

theorem reason_run (hx : x.metadata.revocationReason = "") (steps : List Step) :
    (x.run steps).metadata.revocationReason =
      ((x.endings steps).find? (· ≠ "")).getD "" := by
  induction steps generalizing x with
  | nil => simpa [endings] using hx
  | cons e steps ih =>
    rw [run_cons]
    cases e with
    | untaint name => exact ih hx
    | revoke reason now =>
      have hr := x.revoke_reason reason now
      by_cases hn : now.before x.expiresAt
      · rw [if_pos ⟨hx, Instant.not_atMost.2 hn⟩] at hr
        simp only [endings, hn, if_true, step]
        by_cases he : reason = ""
        · rw [List.find?_cons_of_neg (by simpa using he)]
          exact ih (hr.trans he)
        · rw [List.find?_cons_of_pos (by simpa using he), Option.getD_some]
          exact ((Weaker.run _ steps).reason (by rwa [hr])).trans hr
      · rw [if_neg fun h ↦ hn (Instant.not_atMost.1 h.2), hx] at hr
        simp only [endings, hn, step]
        exact ih hr

/-- A revocation is answered with whether the session was unexpired, which is whether its expiry
has changed. -/
theorem revoke_fst_iff (x : Session) (reason : String) (now : Instant) :
    (x.revoke reason now).1 ↔ (x.revoke reason now).2.expiresAt ≠ x.expiresAt := by
  by_cases he : x.expiresAt.atMost now
  · simp [revoke_of_ended he]
  · have hn : now.before x.expiresAt := Instant.not_atMost.1 he
    have hne : now ≠ x.expiresAt := by
      intro h
      rw [h, Instant.not_before_self] at hn
      cases hn
    simpa [revoke, he] using hne

theorem step_fst_iff (x : Session) (e : Step) :
    (x.step e).1 ↔ (x.step e).2.expiresAt ≠ x.expiresAt ∨
      ∃ name, x.hasTaint name ∧ (x.step e).2.hasTaint name = false := by
  cases e with
  | revoke reason now =>
    have hkept : ¬∃ name, x.hasTaint name ∧ (x.revoke reason now).2.hasTaint name = false := by
      simp [hasTaint]
    rw [step, revoke_fst_iff, or_iff_left hkept]
  | untaint name =>
    constructor
    · intro h
      refine .inr ⟨name, h, ?_⟩
      simp [step, untaint, hasTaint, Bool.eq_false_iff, Taints.contains_remove]
    · rintro (h | ⟨other, ho, h⟩)
      · exact absurd rfl h
      · have hother : ¬(x.taints.remove name).contains other := Bool.eq_false_iff.1 h
        rw [Taints.contains_remove, not_and, Decidable.not_not] at hother
        exact hother ho ▸ ho

/-- Whatever is done to a session, at whatever times, only makes it weaker, and each step tells
whether it did. -/
theorem run_only_weakens (x : Session) (steps : List Step) :
    (∀ before after, steps = before ++ after → (x.run before).Weaker (x.run steps)) ∧
      (∀ before reason now after, steps = before ++ .revoke reason now :: after →
        (x.run steps).expiresAt.atMost now) ∧
      (∀ name, (x.run steps).hasTaint name ↔ x.hasTaint name ∧ .untaint name ∉ steps) ∧
      (x.metadata.revocationReason = "" → (x.run steps).metadata.revocationReason =
        ((x.endings steps).find? (· ≠ "")).getD "") ∧
      ∀ before e after, steps = before ++ e :: after →
        (((x.run before).step e).1 ↔
          ((x.run before).step e).2.expiresAt ≠ (x.run before).expiresAt ∨
            ∃ name, (x.run before).hasTaint name ∧
              ((x.run before).step e).2.hasTaint name = false) := by
  refine ⟨?_, ?_, hasTaint_run x steps, fun hx ↦ reason_run hx steps, ?_⟩
  · intro before after h
    rw [h, run_append]
    exact Weaker.run (x.run before) after
  · intro before reason now after h
    rw [h]
    exact expiresAt_run_revoke x before after reason now
  · intro before e after _
    exact step_fst_iff (x.run before) e

end Gatehouse.Session
