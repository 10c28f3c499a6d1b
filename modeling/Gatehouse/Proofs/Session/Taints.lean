import Gatehouse.Proofs.Text.Tables
import Gatehouse.Session.Taints

namespace Gatehouse.Taints

variable {t u tolerated : Taints} {names remaining : List String}

theorem check_eq_ok : t.check tolerated = .ok () ↔
    ∀ name, t.contains name → tolerated.contains name := by
  have h : t.untolerated tolerated = [] ↔ ∀ name, t.contains name → tolerated.contains name := by
    simp only [List.eq_nil_iff_forall_not_mem, mem_untolerated, not_and, Bool.not_eq_false]
  rw [← h, check]
  cases t.untolerated tolerated <;> simp

theorem check_eq_error : t.check tolerated = .error remaining ↔
    remaining = t.untolerated tolerated ∧ remaining ≠ [] := by
  rw [check]
  cases t.untolerated tolerated with
  | nil => simp +contextual
  | cons name names =>
    simp only [Except.error.injEq]
    constructor
    · rintro rfl
      exact ⟨rfl, List.cons_ne_nil name names⟩
    · intro h₀
      obtain ⟨rfl, -⟩ := h₀
      rfl

theorem eq_of_contains (h : ∀ name, t.contains name ↔ u.contains name) : t = u := by
  ext1
  apply t.ascending.eq_of_mem u.ascending
  intro name
  rw [← List.contains_iff_mem, ← List.contains_iff_mem]
  exact h name

theorem ofList_congr {names' : List String} (h : ∀ name, name ∈ names' ↔ name ∈ names) :
    ofList names' = ofList names := by
  apply eq_of_contains
  intro name
  rw [contains_ofList, contains_ofList, h]

theorem check_ofList_eq_ok :
    t.check (ofList names) = .ok () ↔ ∀ name, t.contains name → name ∈ names := by
  simp only [check_eq_ok, contains_ofList]

/-- The complaint is about the taints that are not tolerated, in order, each of them once. -/
theorem check_ofList_eq_error : t.check (ofList names) = .error remaining ↔
    remaining ≠ [] ∧ Text.Ascending remaining ∧
      ∀ name, name ∈ remaining ↔ t.contains name ∧ name ∉ names := by
  have hmem (name : String) :
      name ∈ t.untolerated (ofList names) ↔ t.contains name ∧ name ∉ names := by
    rw [mem_untolerated, Bool.eq_false_iff, ne_eq, contains_ofList]
  have hasc : Text.Ascending (t.untolerated (ofList names)) := t.ascending.filter _
  rw [check_eq_error]
  constructor
  · rintro ⟨rfl, hne⟩
    exact ⟨hne, hasc, hmem⟩
  · rintro ⟨hne, hr, h⟩
    refine ⟨hr.eq_of_mem hasc fun name ↦ ?_, hne⟩
    rw [h, hmem]

theorem check_remove (h : t.check tolerated = .ok ()) (name : String) :
    (t.remove name).check tolerated = .ok () := by
  rw [check_eq_ok] at h ⊢
  intro other ho
  exact h other ((contains_remove t name other).1 ho).1

end Gatehouse.Taints
