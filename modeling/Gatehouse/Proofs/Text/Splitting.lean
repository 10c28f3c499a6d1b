import Mathlib.Data.List.DropRight
import Gatehouse.Text.Blank
import Gatehouse.Text.Pieces

namespace Gatehouse.Text

variable {sep c : Char} {s a b p : List Char}

theorem pieces_append_sep (sep : Char) (a b : List Char) :
    pieces sep (a ++ sep :: b) = pieces sep a ++ pieces sep b := by
  induction a with
  | nil => simp [pieces]
  | cons c a ih =>
    rcases hp : pieces sep a with _ | ⟨p, ps⟩
    · exact absurd hp (pieces_ne_nil sep a)
    · rw [hp] at ih
      by_cases hc : c = sep <;> simp [pieces, hc, ih, hp]

theorem pieces_of_not_mem (h : sep ∉ s) : pieces sep s = [s] := by
  induction s with
  | nil => rfl
  | cons c s ih =>
    rw [List.mem_cons, not_or] at h
    simp [pieces, Ne.symm h.1, ih h.2]

theorem mem_of_mem_pieces (h : p ∈ pieces sep s) : (∀ c ∈ p, c ∈ s) ∧ sep ∉ p := by
  induction s generalizing p with
  | nil =>
    obtain rfl : p = [] := by simpa [pieces] using h
    simp
  | cons c s ih =>
    rcases hp : pieces sep s with _ | ⟨q, qs⟩
    · exact absurd hp (pieces_ne_nil sep s)
    · rw [hp] at ih
      by_cases hc : c = sep
      · simp only [pieces, hc, if_true, hp, List.mem_cons] at h
        rcases h with rfl | h
        · simp
        · obtain ⟨hs, hsep⟩ := ih (List.mem_cons.2 h)
          exact ⟨fun d hd ↦ List.mem_cons_of_mem c (hs d hd), hsep⟩
      · simp only [pieces, hc, if_false, hp, List.mem_cons] at h
        rcases h with rfl | h
        · obtain ⟨hs, hsep⟩ := ih List.mem_cons_self
          simp only [List.mem_cons, forall_eq_or_imp, true_or, true_and, not_or]
          exact ⟨fun d hd ↦ .inr (hs d hd), Ne.symm hc, hsep⟩
        · obtain ⟨hs, hsep⟩ := ih (List.mem_cons_of_mem q h)
          exact ⟨fun d hd ↦ List.mem_cons_of_mem c (hs d hd), hsep⟩

theorem cut_eq_some : cut sep s = some (a, b) ↔ s = a ++ sep :: b ∧ sep ∉ a := by
  constructor
  · intro h
    induction s generalizing a with
    | nil => cases h
    | cons c s ih =>
      by_cases hc : c = sep
      · simp only [cut, hc, if_true, Option.some.injEq, Prod.mk.injEq] at h
        obtain ⟨rfl, rfl⟩ := h
        simp [hc]
      · simp only [cut, hc, if_false, Option.map_eq_some_iff, Prod.mk.injEq, Prod.exists] at h
        obtain ⟨a', b', h', rfl, rfl⟩ := h
        obtain ⟨rfl, hsep⟩ := ih h'
        exact ⟨rfl, by simp [Ne.symm hc, hsep]⟩
  · intro h₀
    obtain ⟨rfl, h⟩ := h₀
    exact cut_append h b

theorem cut_eq_none : cut sep s = none ↔ sep ∉ s := by
  induction s with
  | nil => simp [cut]
  | cons c s ih =>
    by_cases hc : c = sep
    · simp [cut, hc]
    · simp [cut, hc, ih, Ne.symm hc]

theorem trimFront_eq_self (h : ∀ c ∈ s.head?, ¬isBlank c) : trimFront s = s := by
  cases s with
  | nil => rfl
  | cons c s => simp [trimFront, h c rfl]

theorem mem_of_mem_trim (h : c ∈ trim s) : c ∈ s := by
  have hf : trimFront s <:+ s := List.dropWhile_suffix _
  have hb : trim s <+: trimFront s := List.rdropWhile_prefix _ _
  exact hf.subset (hb.subset h)

theorem trim_cons_of_isBlank (h : isBlank c) : trim (c :: s) = trim s := by
  simp [trim, trimFront, h]

theorem not_isBlank_of_head_trimFront (h : c ∈ (trimFront s).head?) : ¬isBlank c := by
  have hn := List.head?_dropWhile_not isBlank s
  rw [← trimFront, h] at hn
  simp [hn]

theorem not_isBlank_of_head_trim (h : c ∈ (trim s).head?) : ¬isBlank c := by
  obtain ⟨rest, hr⟩ : trim s <+: trimFront s := List.rdropWhile_prefix _ _
  have hf : c ∈ (trimFront s).head? := by
    rw [← hr, List.head?_append, h]
    rfl
  exact not_isBlank_of_head_trimFront hf

theorem not_isBlank_of_getLast_trim (h : c ∈ (trim s).getLast?) : ¬isBlank c := by
  obtain ⟨hne, rfl⟩ := List.mem_getLast?_eq_getLast h
  exact List.rdropWhile_last_not isBlank (trimFront s) hne

@[simp] theorem trim_trim (s : List Char) : trim (trim s) = trim s := by
  have hf : trimFront (trim s) = trim s := trimFront_eq_self fun c hc ↦ not_isBlank_of_head_trim hc
  have hb : trimBack (trim s) = trim s := List.rdropWhile_idempotent _ _
  rw [trim, hf, hb]

theorem trim_eq_self (hhead : ∀ c ∈ s.head?, ¬isBlank c) (hlast : ∀ c ∈ s.getLast?, ¬isBlank c) :
    trim s = s := by
  have hback : trimFront s.reverse = s.reverse :=
    trimFront_eq_self fun c hc ↦ hlast c (by rwa [List.head?_reverse] at hc)
  rw [trim, trimFront_eq_self hhead, trimBack, ← trimFront, hback, List.reverse_reverse]

theorem trim_of_not_isBlank (h : ∀ c ∈ s, isBlank c = false) : trim s = s := by
  apply trim_eq_self
  · intro c hc
    simp [h c (List.mem_of_mem_head? hc)]
  · intro c hc
    simp [h c (List.mem_of_getLast? hc)]

/-- Whether there are no blanks at the ends of a text. -/
def Unpadded (s : String) : Prop :=
  (∀ c ∈ s.toList.head?, ¬isBlank c) ∧ ∀ c ∈ s.toList.getLast?, ¬isBlank c

theorem unpadded_trimmed (s : String) : Unpadded (trimmed s) := by
  have ht : (trimmed s).toList = trim s.toList := String.toList_ofList
  rw [Unpadded, ht]
  exact ⟨fun c hc ↦ not_isBlank_of_head_trim hc, fun c hc ↦ not_isBlank_of_getLast_trim hc⟩

theorem toLower_toLower (c : Char) : c.toLower.toLower = c.toLower := by
  unfold Char.toLower
  by_cases h : c.val ≥ 'A'.val ∧ c.val ≤ 'Z'.val
  · have h' : ¬(c.val + ('a'.val - 'A'.val) ≥ 'A'.val ∧
        c.val + ('a'.val - 'A'.val) ≤ 'Z'.val) := by
      simp only [ge_iff_le, UInt32.le_iff_toNat_le, UInt32.toNat_add, Char.reduceVal] at h ⊢
      simp at h ⊢
      omega
    rw [dif_pos h, dif_neg h']
  · rw [dif_neg h, dif_neg h]

@[simp] theorem lower_lower (s : String) : lower (lower s) = lower s := by
  have h : Char.toLower ∘ Char.toLower = Char.toLower := funext toLower_toLower
  simp [lower, h]

variable {sep : String} {ss : List String}

theorem joined_concat (h : ss ≠ []) (s : String) :
    joined sep (ss ++ [s]) = joined sep ss ++ sep ++ s := by
  induction ss with
  | nil => exact absurd rfl h
  | cons t ss ih =>
    cases ss with
    | nil => rfl
    | cons u ss =>
      have ih := ih (List.cons_ne_nil u ss)
      simp only [List.cons_append, joined] at ih ⊢
      rw [ih]
      simp only [String.append_assoc]

theorem joined_pieces (sep : Char) (s : List Char) :
    joined (String.singleton sep) ((pieces sep s).map String.ofList) = String.ofList s := by
  have hcons (c : Char) (s : List Char) :
      String.ofList (c :: s) = String.singleton c ++ String.ofList s := by simp
  induction s with
  | nil => rfl
  | cons c s ih =>
    rcases hp : pieces sep s with _ | ⟨p, ps⟩
    · exact absurd hp (pieces_ne_nil sep s)
    · rw [hp, List.map_cons] at ih
      by_cases hc : c = sep
      · simp only [pieces, hc, if_true, hp, List.map_cons, joined]
        rw [ih, hcons sep s]
        rfl
      · simp only [pieces, hc, if_false, hp, List.map_cons]
        rw [hcons c s, ← ih, hcons c p]
        cases ps with
        | nil => rfl
        | cons q qs => simp only [List.map_cons, joined, String.append_assoc]

end Gatehouse.Text
