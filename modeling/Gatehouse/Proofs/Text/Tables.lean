import Mathlib.Data.List.Sort
import Gatehouse.Text.Order

namespace Gatehouse.Text

/-- Lists in the order of their keys, each key once, are equal if they have the same members. -/
theorem eq_of_mem_of_pairwise {α : Type} (key : α → String) {as bs : List α}
    (h : as.Pairwise fun a b ↦ order (key a) (key b) = .lt)
    (h' : bs.Pairwise fun a b ↦ order (key a) (key b) = .lt) (hm : ∀ a, a ∈ as ↔ a ∈ bs) :
    as = bs := by
  have hirrefl : Std.Irrefl fun a b : α ↦ order (key a) (key b) = .lt :=
    ⟨fun a ha ↦ ne_of_order_lt ha rfl⟩
  have hanti : Std.Antisymm fun a b : α ↦ order (key a) (key b) = .lt :=
    ⟨fun a b ha hb ↦ absurd rfl (ne_of_order_lt (order_trans ha hb))⟩
  exact h.eq_of_mem_iff h' hm

theorem Ascending.eq_of_mem {ss ts : List String} (h : Ascending ss) (h' : Ascending ts)
    (hm : ∀ s, s ∈ ss ↔ s ∈ ts) : ss = ts := eq_of_mem_of_pairwise id h h' hm

variable {α : Type} {key k : String} {f : Option α → α} {e : String × α}
variable {table : List (String × α)}

def Sorted (table : List (String × α)) : Prop := table.Pairwise fun e e' ↦ order e.1 e'.1 = .lt

theorem mem_alterSorted (h : e ∈ alterSorted key f table) : e.1 = key ∨ e ∈ table := by
  induction table with
  | nil =>
    obtain rfl : e = (key, f none) := by simpa [alterSorted] using h
    exact .inl rfl
  | cons x rest ih =>
    obtain ⟨k, a⟩ := x
    simp only [alterSorted] at h
    split at h
    · rcases List.mem_cons.1 h with rfl | h
      · exact .inl rfl
      · exact .inr h
    · next hk =>
      rcases List.mem_cons.1 h with rfl | h
      · exact .inl (order_eq_eq.1 hk).symm
      · exact .inr (List.mem_cons_of_mem _ h)
    · rcases List.mem_cons.1 h with rfl | h
      · exact .inr List.mem_cons_self
      · exact (ih h).imp_right (List.mem_cons_of_mem _)

theorem Sorted.alterSorted (h : Sorted table) : Sorted (alterSorted key f table) := by
  induction table with
  | nil => exact List.pairwise_singleton _ _
  | cons x rest ih =>
    obtain ⟨k, a⟩ := x
    obtain ⟨hk, hr⟩ := List.pairwise_cons.1 h
    simp only [Text.alterSorted]
    split
    · next ho =>
      refine List.pairwise_cons.2 ⟨fun e he ↦ ?_, h⟩
      rcases List.mem_cons.1 he with rfl | he
      · exact ho
      · exact order_trans ho (hk e he)
    · exact List.pairwise_cons.2 ⟨hk, hr⟩
    · next ho =>
      refine List.pairwise_cons.2 ⟨fun e he ↦ ?_, ih hr⟩
      rcases mem_alterSorted he with he | he
      · rw [he]
        exact order_lt_iff.2 ho
      · exact hk e he

theorem lookup?_eq_none (h : ∀ e ∈ table, e.1 ≠ key) : lookup? key table = none := by
  induction table with
  | nil => rfl
  | cons x rest ih =>
    obtain ⟨k, a⟩ := x
    rw [lookup?, if_neg (h _ List.mem_cons_self), ih fun e he ↦ h e (List.mem_cons_of_mem _ he)]

theorem Sorted.lookup?_alterSorted (h : Sorted table) (k : String) :
    lookup? k (Text.alterSorted key f table) =
      if k = key then some (f (lookup? key table)) else lookup? k table := by
  induction table with
  | nil => simp [Text.alterSorted, lookup?, eq_comm]
  | cons x rest ih =>
    obtain ⟨l, a⟩ := x
    obtain ⟨hl, hr⟩ := List.pairwise_cons.1 h
    have ih := ih hr
    simp only [Text.alterSorted]
    split
    · next ho =>
      have hnone : lookup? key ((l, a) :: rest) = none := by
        refine lookup?_eq_none fun e he ↦ ?_
        rcases List.mem_cons.1 he with rfl | he
        · exact (ne_of_order_lt ho).symm
        · exact (ne_of_order_lt (order_trans ho (hl e he))).symm
      rw [hnone, lookup?]
      simp only [eq_comm]
    · next ho =>
      obtain rfl := order_eq_eq.1 ho
      simp only [lookup?, if_true, eq_comm]
      split <;> rfl
    · next ho =>
      have hne : key ≠ l := (ne_of_order_lt (order_lt_iff.2 ho)).symm
      simp only [lookup?, ih]
      by_cases hk : l = k
      · subst hk
        rw [if_pos rfl, if_neg hne.symm, if_pos rfl]
      · simp [hk, hne.symm]

theorem Sorted.filter_key (h : Sorted table) (key : String) :
    (table.filter fun e ↦ e.1 = key) = (lookup? key table).toList.map fun a ↦ (key, a) := by
  induction table with
  | nil => rfl
  | cons x rest ih =>
    obtain ⟨k, a⟩ := x
    obtain ⟨hk, hr⟩ := List.pairwise_cons.1 h
    have ih := ih hr
    by_cases he : k = key
    · subst he
      have hnone : lookup? k rest = none :=
        lookup?_eq_none fun e he ↦ (ne_of_order_lt (hk e he)).symm
      rw [hnone] at ih
      simp [lookup?] at ih ⊢
      exact ih
    · simpa [lookup?, he] using ih

theorem Sorted.mem_iff (h : Sorted table) {a : α} :
    (key, a) ∈ table ↔ lookup? key table = some a := by
  have hm : (key, a) ∈ table ↔ (key, a) ∈ table.filter fun e ↦ e.1 = key := by simp
  rw [hm, h.filter_key, List.mem_map]
  constructor
  · rintro ⟨b, hb, he⟩
    obtain rfl : b = a := congrArg Prod.snd he
    exact Option.mem_toList.1 hb
  · intro ha
    exact ⟨a, Option.mem_toList.2 ha, rfl⟩

theorem Sorted.ext {table' : List (String × α)} (h : Sorted table) (h' : Sorted table')
    (hl : ∀ key, lookup? key table = lookup? key table') : table = table' := by
  apply eq_of_mem_of_pairwise Prod.fst h h'
  intro e
  rw [h.mem_iff, h'.mem_iff, hl]

variable {β : Type} (f : String → α → β)

theorem Sorted.map (h : Sorted table) : Sorted (table.map fun e ↦ (e.1, f e.1 e.2)) :=
  List.pairwise_map.2 h

theorem lookup?_map (key : String) (table : List (String × α)) :
    lookup? key (table.map fun e ↦ (e.1, f e.1 e.2)) = (lookup? key table).map (f key) := by
  induction table with
  | nil => rfl
  | cons e rest ih =>
    rw [List.map_cons, lookup?, lookup?, ih]
    split
    · next hk => rw [hk, Option.map_some]
    · rfl

end Gatehouse.Text
