import Gatehouse.Text.Pieces

namespace Gatehouse.Text

def compareChars : List Char → List Char → Ordering
  | [], [] => .eq
  | [], _ :: _ => .lt
  | _ :: _, [] => .gt
  | c :: s, d :: t =>
    if c.toNat < d.toNat then .lt else if d.toNat < c.toNat then .gt else compareChars s t

def order (s t : String) : Ordering := compareChars s.toList t.toList

theorem compareChars_eq_eq {s t : List Char} : compareChars s t = .eq ↔ s = t := by
  induction s generalizing t with
  | nil => cases t <;> simp [compareChars]
  | cons c s ih =>
    cases t with
    | nil => simp [compareChars]
    | cons d t =>
      simp only [compareChars, List.cons.injEq]
      split
      · next h =>
        have : c ≠ d := by rintro rfl; omega
        simp [this]
      · split
        · next h =>
          have : c ≠ d := by rintro rfl; omega
          simp [this]
        · next h h' =>
          have : c = d := Char.toNat_inj.1 (by omega)
          simp [ih, this]

theorem order_eq_eq {s t : String} : order s t = .eq ↔ s = t := by
  rw [order, compareChars_eq_eq, String.toList_inj]

theorem compareChars_swap (s t : List Char) : compareChars t s = (compareChars s t).swap := by
  induction s generalizing t with
  | nil => cases t <;> rfl
  | cons c s ih =>
    cases t with
    | nil => rfl
    | cons d t =>
      simp only [compareChars]
      rcases Nat.lt_trichotomy c.toNat d.toNat with h | h | h
      · simp [h, Nat.lt_asymm h]
      · simp [h, ih]
      · simp [h, Nat.lt_asymm h]

theorem compareChars_trans {s t u : List Char} (h : compareChars s t = .lt)
    (h' : compareChars t u = .lt) : compareChars s u = .lt := by
  induction s generalizing t u with
  | nil =>
    cases u with
    | nil => cases t <;> cases h'
    | cons e u => rfl
  | cons c s ih =>
    cases t with
    | nil => cases h
    | cons d t =>
      cases u with
      | nil => cases h'
      | cons e u =>
        simp only [compareChars] at h h' ⊢
        split at h
        · split at h'
          · rw [if_pos (by omega)]
          · split at h'
            · cases h'
            · rw [if_pos (by omega)]
        · split at h
          · cases h
          · split at h'
            · rw [if_pos (by omega)]
            · split at h'
              · cases h'
              · rw [if_neg (by omega), if_neg (by omega)]
                exact ih h h'

theorem order_lt_iff {s t : String} : order s t = .lt ↔ order t s = .gt := by
  rw [order, order, compareChars_swap s.toList t.toList]
  cases compareChars s.toList t.toList <;> decide

theorem order_trans {s t u : String} (h : order s t = .lt) (h' : order t u = .lt) :
    order s u = .lt := compareChars_trans h h'

@[simp] theorem order_self (s : String) : order s s = .eq := order_eq_eq.2 rfl

theorem ne_of_order_lt {s t : String} (h : order s t = .lt) : s ≠ t := by
  rintro rfl
  simp at h

/-- Texts in their order, each of them once. -/
def Ascending (ss : List String) : Prop := ss.Pairwise fun s t ↦ order s t = .lt

def insertSorted (s : String) : List String → List String
  | [] => [s]
  | t :: ts =>
    match order s t with
    | .lt => s :: t :: ts
    | .eq => t :: ts
    | .gt => t :: insertSorted s ts

def sortedSet (ss : List String) : List String := ss.foldl (fun acc s ↦ insertSorted s acc) []

theorem mem_insertSorted {s u : String} {ts : List String} :
    u ∈ insertSorted s ts ↔ u = s ∨ u ∈ ts := by
  induction ts with
  | nil => simp [insertSorted]
  | cons t ts ih =>
    simp only [insertSorted]
    split
    · simp
    · next h => simp [order_eq_eq.1 h]
    · grind

theorem Ascending.filter {ss : List String} (h : Ascending ss) (keeps : String → Bool) :
    Ascending (ss.filter keeps) := List.Pairwise.filter keeps h

theorem Ascending.insertSorted {ts : List String} (h : Ascending ts) (s : String) :
    Ascending (insertSorted s ts) := by
  induction ts with
  | nil => exact List.pairwise_singleton _ _
  | cons t ts ih =>
    obtain ⟨ht, hts⟩ := List.pairwise_cons.1 h
    simp only [Text.insertSorted]
    split
    · next ho =>
      apply List.Pairwise.cons _ h
      intro u hu
      rcases List.mem_cons.1 hu with rfl | hu
      · exact ho
      · exact order_trans ho (ht u hu)
    · exact h
    · next ho =>
      apply List.Pairwise.cons _ (ih hts)
      intro u hu
      rcases mem_insertSorted.1 hu with rfl | hu
      · exact order_lt_iff.2 ho
      · exact ht u hu

theorem ascending_foldl {ts : List String} (h : Ascending ts) (ss : List String) :
    Ascending (ss.foldl (fun acc s ↦ insertSorted s acc) ts) := by
  induction ss generalizing ts with
  | nil => exact h
  | cons s ss ih => exact ih (h.insertSorted s)

theorem mem_foldl_insertSorted {u : String} {ss ts : List String} :
    u ∈ ss.foldl (fun acc s ↦ insertSorted s acc) ts ↔ u ∈ ss ∨ u ∈ ts := by
  induction ss generalizing ts with
  | nil => simp
  | cons s ss ih =>
    rw [List.foldl_cons, ih, mem_insertSorted, List.mem_cons, or_left_comm, or_assoc]

theorem ascending_sortedSet (ss : List String) : Ascending (sortedSet ss) :=
  ascending_foldl .nil ss

theorem mem_sortedSet {u : String} {ss : List String} : u ∈ sortedSet ss ↔ u ∈ ss := by
  rw [sortedSet, mem_foldl_insertSorted]
  simp

/-- Changes the entry under a key in a table sorted by keys, or makes it. -/
def alterSorted {α : Type} (key : String) (f : Option α → α) : List (String × α) → List (String × α)
  | [] => [(key, f none)]
  | (k, a) :: rest =>
    match order key k with
    | .lt => (key, f none) :: (k, a) :: rest
    | .eq => (k, f (some a)) :: rest
    | .gt => (k, a) :: alterSorted key f rest

def lookup? {α : Type} (key : String) : List (String × α) → Option α
  | [] => none
  | (k, a) :: rest => if k = key then some a else lookup? key rest

end Gatehouse.Text
