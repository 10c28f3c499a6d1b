import Mathlib.Data.List.Induction
import Gatehouse.Proofs.Authority.Runs
import Gatehouse.Proofs.Instant.Calendar

namespace Gatehouse

/-- All stored sessions end at some time of the calendar. -/
def State.IsTimely (s : State) : Prop :=
  ∀ id x, s.findSession id = some x → x.expiresAt.IsProper

namespace State

variable {s s' : State} {x : Session} {now : Instant} {taint : String}

theorem IsTimely.withSession (h : s.IsTimely) (hx : x.expiresAt.IsProper) :
    (s.withSession x).IsTimely := by
  intro id y hy
  rw [findSession_withSession] at hy
  split at hy
  · cases hy
    exact hx
  · exact h id y hy

theorem Revokes.isTimely (h : Revokes now s s') (hnow : now.IsProper) (hs : s.IsTimely) :
    s'.IsTimely := by
  induction h with
  | refl => exact hs
  | tail _ hstep ih =>
    obtain ⟨id, reason, z, -, hz, rfl⟩ := hstep
    refine ih.withSession ?_
    rcases z.expiresAt_revoke reason now with he | he
    · rw [he]
      exact ih id z hz
    · rw [he]
      exact hnow

theorem Untaints.isTimely (h : Untaints s s' x taint) (hs : s.IsTimely) : s'.IsTimely := by
  intro id y hy
  rw [h.findSession] at hy
  split at hy
  · cases hy
    exact hs x.id x h.stored
  · exact hs id y hy

end State

namespace Authority

open Http (Request)

variable {a : Authority} {r : Request} {s : Surroundings} {s' : State}

theorem Outcome.isTimely (h : a.Outcome r s s') (hnow : s.now.IsReading)
    (hs : s.database.committed.IsTimely) : s'.IsTimely := by
  cases h with
  | same => exact hs
  | created _ hu =>
    intro id x hx
    rw [State.findSession_insertUser hu] at hx
    exact hs id x hx
  | @minted p x hp hx =>
    refine hs.withSession ?_
    rw [hx.ends]
    rcases hp with rfl | rfl
    · exact hnow.after (by decide) (by decide)
    · exact hnow.after (by decide) (by decide)
  | revoked hr => exact hr.isTimely hnow.toIsProper hs
  | enrolled he => exact he.untaints.isTimely hs
  | loggedIn he => exact he.untaints.isTimely hs

def TellsTime (vs : List Arrival) : Prop := ∀ v ∈ vs, v.now.IsReading

theorem run_isTimely (a : Authority) {vs : List Arrival} (h : TellsTime vs) :
    (a.run vs).IsTimely := by
  induction vs using List.reverseRecOn with
  | nil =>
    intro id x hx
    cases hx
  | append_singleton vs v ih =>
    rw [run_concat]
    have hv : v.now.IsReading := h v (List.mem_append_right _ List.mem_cons_self)
    have hvs : TellsTime vs := fun w hw ↦ h w (List.mem_append_left _ hw)
    exact (a.receive_outcome (a.run vs) v).isTimely hv (ih hvs)

end Authority

end Gatehouse
