import Mathlib.Data.List.Induction
import Gatehouse.Proofs.Authority.Enrollments

namespace Gatehouse.Authority

open Http (Request)

variable {a : Authority} {r : Request} {s : Surroundings} {s' : State} {id : SessionId}
variable {x y : Session} {v : Arrival} {vs : List Arrival}

theorem Outcome.taints_of_new (h : a.Outcome r s s')
    (hx : s.database.committed.findSession id = none) (hy : s'.findSession id = some y) :
    y.taints = .ofList [Taints.startLogin] ∨ y.taints = .ofList [Taints.enrollment] := by
  rcases h.session_origin hy with ⟨p, rfl | rfl, hp⟩ | ⟨x, hx', -⟩
  · exact .inr hp.taints
  · exact .inl hp.taints
  · rw [hx] at hx'
    cases hx'

/-- A stored session stays, with its taints but for the one that a ceremony takes away. -/
theorem Outcome.session_kept (h : a.Outcome r s s')
    (hf : ∀ i, (SessionId.draw s.entropy).1 = .ok i → s.database.committed.findSession i = none)
    (hx : s.database.committed.findSession id = some x) :
    ∃ y, s'.findSession id = some y ∧ (y.taints = x.taints ∨
      y.taints = x.taints.remove Taints.startLogin ∧ a.EndsLogin r s x s' ∨
      y.taints = x.taints.remove Taints.enrollment ∧ a.EndsEnrollment r s x s') := by
  cases h with
  | same => exact ⟨x, hx, .inl rfl⟩
  | created _ hu => exact ⟨x, (State.findSession_insertUser hu).trans hx, .inl rfl⟩
  | @minted p z hp hz =>
    refine ⟨x, ?_, .inl rfl⟩
    rw [State.findSession_withSession, if_neg, hx]
    rintro rfl
    rw [hf z.id hz.drawn] at hx
    cases hx
  | revoked hr =>
    obtain ⟨y, hy, ht, -⟩ := hr.findSession_of_some hx
    exact ⟨y, hy, .inl ht⟩
  | enrolled he =>
    rcases he.untaints.findSession_of_some hx with hy | ⟨rfl, hy⟩
    · exact ⟨x, hy, .inl rfl⟩
    · exact ⟨_, hy, .inr (.inr ⟨rfl, he⟩)⟩
  | loggedIn he =>
    rcases he.untaints.findSession_of_some hx with hy | ⟨rfl, hy⟩
    · exact ⟨x, hy, .inl rfl⟩
    · exact ⟨_, hy, .inr (.inl ⟨rfl, he⟩)⟩

theorem receive_sheds {s : State} (hf : v.Fresh s) (hx : s.findSession id = some x) :
    ∃ y, (a.receive s v).findSession id = some y ∧
      (∀ name, y.taints.contains name → x.taints.contains name) ∧
      (x.taints.contains Taints.startLogin → y.taints.contains Taints.startLogin = false →
        (a.facing v).EndsLogin v.request (v.surroundings s) x (a.receive s v)) ∧
      (x.taints.contains Taints.enrollment → y.taints.contains Taints.enrollment = false →
        (a.facing v).EndsEnrollment v.request (v.surroundings s) x (a.receive s v)) := by
  have hn : Taints.startLogin ≠ Taints.enrollment := by decide
  obtain ⟨y, hy, ht⟩ := (a.receive_outcome s v).session_kept hf hx
  refine ⟨y, hy, ?_⟩
  rcases ht with ht | ⟨ht, he⟩ | ⟨ht, he⟩ <;> rw [ht]
  · exact ⟨fun _ h ↦ h, fun h h' ↦ absurd h (by simp [h']), fun h h' ↦ absurd h (by simp [h'])⟩
  · refine ⟨fun _ h ↦ ((Taints.contains_remove _ _ _).1 h).1, fun _ _ ↦ he, fun h h' ↦ ?_⟩
    exact absurd ((Taints.contains_remove _ _ _).2 ⟨h, hn.symm⟩) (by simp [h'])
  · refine ⟨fun _ h ↦ ((Taints.contains_remove _ _ _).1 h).1, fun h h' ↦ ?_, fun _ _ ↦ he⟩
    exact absurd ((Taints.contains_remove _ _ _).2 ⟨h, hn⟩) (by simp [h'])

theorem DrawsFresh.of_concat (h : a.DrawsFresh (vs ++ [v])) : a.DrawsFresh vs :=
  fun earlier w later hv ↦ h earlier w (later ++ [v]) (by rw [hv]; simp)

/-- Each stored session has come into being in the course of the run, with one of two taints. -/
theorem session_of_run (hf : a.DrawsFresh vs) (hx : (a.run vs).findSession id = some x) :
    ∃ earlier v later y, vs = earlier ++ v :: later ∧
      (a.run earlier).findSession id = none ∧ (a.run (earlier ++ [v])).findSession id = some y ∧
      (y.taints = .ofList [Taints.startLogin] ∨ y.taints = .ofList [Taints.enrollment]) ∧
      ∀ name, x.taints.contains name → y.taints.contains name := by
  induction vs using List.reverseRecOn generalizing x with
  | nil => cases hx
  | append_singleton vs v ih =>
    cases hz : (a.run vs).findSession id with
    | none =>
      have hy := a.run_concat vs v ▸ hx
      exact ⟨vs, v, [], x, rfl, hz, hx, (a.receive_outcome _ v).taints_of_new hz hy, fun _ h ↦ h⟩
    | some z =>
      obtain ⟨earlier, w, later, y, hvs, hn, hy, ht, hs⟩ := ih hf.of_concat hz
      obtain ⟨x', hx', hsub, -⟩ := a.receive_sheds (hf vs v [] rfl) hz
      rw [run_concat, hx', Option.some.injEq] at hx
      refine ⟨earlier, w, later ++ [v], y, by rw [hvs]; simp, hn, hy, ht, fun name h ↦ ?_⟩
      exact hs name (hsub name (hx ▸ h))

/-- Sessions come into being with one taint, that of a login or that of an enrollment, and no taint
is ever shed but by the ceremony that it stands for. -/
theorem taints_shed_by_ceremony (a : Authority) (hf : a.DrawsFresh vs) :
    (∀ id x, (a.run vs).findSession id = some x →
      ∃ earlier v later y, vs = earlier ++ v :: later ∧
        (a.run earlier).findSession id = none ∧ (a.run (earlier ++ [v])).findSession id = some y ∧
        (y.taints = .ofList [Taints.startLogin] ∨ y.taints = .ofList [Taints.enrollment]) ∧
        ∀ name, x.taints.contains name → y.taints.contains name) ∧
    ∀ earlier v later, vs = earlier ++ v :: later →
      ∀ id x, (a.run earlier).findSession id = some x →
        ∃ y, (a.run (earlier ++ [v])).findSession id = some y ∧
          (∀ name, y.taints.contains name → x.taints.contains name) ∧
          (x.taints.contains Taints.startLogin → y.taints.contains Taints.startLogin = false →
            (a.facing v).EndsLogin v.request (v.surroundings (a.run earlier)) x
              (a.run (earlier ++ [v]))) ∧
          (x.taints.contains Taints.enrollment → y.taints.contains Taints.enrollment = false →
            (a.facing v).EndsEnrollment v.request (v.surroundings (a.run earlier)) x
              (a.run (earlier ++ [v]))) := by
  refine ⟨fun id x hx ↦ session_of_run hf hx, fun earlier v later hvs id x hx ↦ ?_⟩
  rw [run_concat]
  exact receive_sheds (hf earlier v later hvs) hx

theorem drawsFresh_namesakeEnrolled : gate.DrawsFresh namesakeEnrolled := by
  intro earlier v later hvs
  obtain ⟨n, rfl, hv⟩ : ∃ n, namesakeEnrolled.take n = earlier ∧ namesakeEnrolled[n]? = some v :=
    ⟨earlier.length, by rw [hvs, List.take_left], by simp [hvs]⟩
  rcases n with _ | _ | _ | n
  · exact fun _ _ ↦ rfl
  · have hs : (gate.run (namesakeEnrolled.take 1)).sessions = [] := by decide +kernel
    intro id _
    rw [State.findSession, hs, List.find?_nil]
  · intro id hid
    obtain rfl : keyFinished = v := Option.some.inj hv
    obtain rfl : ⟨List.replicate 64 0⟩ = id := Except.ok.inj hid
    rw [run_invited]
    decide +kernel
  · cases hv

theorem taints_shed_by_ceremony_namesake : gate.DrawsFresh namesakeEnrolled ∧
    (∃ earlier v later y, namesakeEnrolled = earlier ++ v :: later ∧
      (gate.run earlier).findSession invited = none ∧
      (gate.run (earlier ++ [v])).findSession invited = some y ∧
      (y.taints = .ofList [Taints.startLogin] ∨ y.taints = .ofList [Taints.enrollment])) ∧
    awaitsKey.taints.contains Taints.enrollment ∧
    ∃ y, (gate.run namesakeEnrolled).findSession invited = some y ∧
      y.taints.contains Taints.enrollment = false ∧
      (gate.facing keyFinished).EndsEnrollment keyFinished.request
        (keyFinished.surroundings (gate.run (namesakeEnrolled.take 2))) awaitsKey
        (gate.run namesakeEnrolled) := by
  have hbefore : (gate.run (namesakeEnrolled.take 2)).findSession invited = some awaitsKey := by
    rw [run_invited]
    decide +kernel
  have hafter : (gate.run namesakeEnrolled).findSession invited = some namesake := by
    rw [run_namesakeEnrolled]
    decide +kernel
  obtain ⟨horigin, hshed⟩ := taints_shed_by_ceremony gate drawsFresh_namesakeEnrolled
  obtain ⟨earlier, v, later, y, hvs, hn, hy, ht, -⟩ := horigin _ _ hafter
  obtain ⟨z, hz, -, -, hends⟩ := hshed (namesakeEnrolled.take 2) keyFinished [] rfl _ _ hbefore
  obtain rfl : namesake = z := Option.some.inj (hafter.symm.trans hz)
  have htainted : awaitsKey.taints.contains Taints.enrollment := by decide
  have hclean : namesake.taints.contains Taints.enrollment = false := by decide
  exact ⟨drawsFresh_namesakeEnrolled, ⟨earlier, v, later, y, hvs, hn, hy, ht⟩, htainted, namesake,
    hafter, hclean, hends htainted hclean⟩

end Gatehouse.Authority
