import Gatehouse.Proofs.Json.Numerals
import Gatehouse.Proofs.Json.Spelling

namespace Gatehouse.Json

variable {b : UInt8} {v s t o p rest : Octets}

def Blank (s : Octets) : Prop := ∀ b ∈ s, isSpace b

def Padded (v o : Octets) : Prop := ∃ s t, Blank s ∧ Blank t ∧ o = s ++ (v ++ t)

def nullWord : Octets := [110, 117, 108, 108]

def boolWord (b : Bool) : Octets :=
  if b then [116, 114, 117, 101] else [102, 97, 108, 115, 101]

def quoted (k : Octets) : Octets := 34 :: (k ++ [34])

def IsText (v : Octets) (s : String) : Prop := ∃ k, v = quoted k ∧ Spells k (Octets.ofText s)

/-- A name, a colon and a value, with blanks between them. -/
def IsMember (k v o : Octets) : Prop :=
  ∃ a b, Padded (quoted k) a ∧ Padded v b ∧ o = a ++ 58 :: b

inductive IsScalar : Octets → Prop
  | null : IsScalar nullWord
  | bool (b : Bool) : IsScalar (boolWord b)
  | number {v : Octets} (h : IsNumeral v) : IsScalar v
  | text {k : Octets} (h : Skimmed k) : IsScalar (quoted k)

mutual

inductive IsValue : Octets → Prop
  | scalar {v : Octets} (h : IsScalar v) : IsValue v
  | list {vs : List Octets} {o : Octets} (h : IsList vs o) : IsValue (91 :: (o ++ [93]))
  | object {ms : List (Octets × Octets)} {o : Octets} (h : IsObject ms o) :
      IsValue (123 :: (o ++ [125]))

inductive IsList : List Octets → Octets → Prop
  | none {o : Octets} (h : Blank o) : IsList [] o
  | last {v o : Octets} (hv : IsValue v) (ho : Padded v o) : IsList [v] o
  | more {v w o p : Octets} {vs : List Octets} (hv : IsValue v) (ho : Padded v o)
      (h : IsList (w :: vs) p) : IsList (v :: w :: vs) (o ++ 44 :: p)

inductive IsObject : List (Octets × Octets) → Octets → Prop
  | none {o : Octets} (h : Blank o) : IsObject [] o
  | last {k v o : Octets} (hk : Skimmed k) (hv : IsValue v) (ho : IsMember k v o) :
      IsObject [(k, v)] o
  | more {k v o p : Octets} {m : Octets × Octets} {ms : List (Octets × Octets)}
      (hk : Skimmed k) (hv : IsValue v) (ho : IsMember k v o) (h : IsObject (m :: ms) p) :
      IsObject ((k, v) :: m :: ms) (o ++ 44 :: p)

end

theorem Blank.append (hs : Blank s) (ht : Blank t) : Blank (s ++ t) := by
  intro b hb
  rcases List.mem_append.1 hb with hb | hb
  · exact hs b hb
  · exact ht b hb

theorem Padded.blank (hs : Blank s) (h : Padded v o) : Padded v (s ++ o) := by
  obtain ⟨s', t, hs', ht, rfl⟩ := h
  exact ⟨s ++ s', t, hs.append hs', ht, (List.append_assoc ..).symm⟩

theorem isMember_intro {k a : Octets} (ha : Blank a) (hs : Blank s) (ht : Blank t) :
    IsMember k v (quoted k ++ a ++ 58 :: (s ++ (v ++ t))) :=
  ⟨quoted k ++ a, _, ⟨[], a, by simp [Blank], ha, rfl⟩, ⟨s, t, hs, ht, rfl⟩, rfl⟩

theorem IsMember.blank {k : Octets} (hs : Blank s) (h : IsMember k v o) :
    IsMember k v (s ++ o) := by
  obtain ⟨a, b, ha, hb, rfl⟩ := h
  exact ⟨s ++ a, b, ha.blank hs, hb, (List.append_assoc ..).symm⟩

theorem IsList.blank {vs : List Octets} (hs : Blank s) (h : IsList vs o) : IsList vs (s ++ o) := by
  cases h with
  | none h => exact .none (hs.append h)
  | last hv ho => exact .last hv (ho.blank hs)
  | more hv ho h =>
    rw [← List.append_assoc]
    exact .more hv (ho.blank hs) h

theorem IsObject.blank {ms : List (Octets × Octets)} (hs : Blank s) (h : IsObject ms o) :
    IsObject ms (s ++ o) := by
  cases h with
  | none h => exact .none (hs.append h)
  | last hk hv ho => exact .last hk hv (ho.blank hs)
  | more hk hv ho h =>
    rw [← List.append_assoc]
    exact .more hk hv (ho.blank hs) h

theorem dropSpace_blank (h : Blank s) (o : Octets) : dropSpace (s ++ o) = dropSpace o := by
  induction s with
  | nil => rfl
  | cons b s ih =>
    rw [List.cons_append, dropSpace, List.dropWhile_cons_of_pos (h b List.mem_cons_self)]
    exact ih fun c hc ↦ h c (List.mem_cons_of_mem b hc)

theorem blank_dropSpace (o : Octets) : ∃ s, Blank s ∧ o = s ++ dropSpace o := by
  refine ⟨o.takeWhile isSpace, ?_, ?_⟩
  · exact fun b hb ↦ List.all_eq_true.1 List.all_takeWhile b hb
  · exact List.takeWhile_append_dropWhile.symm

theorem blank_of_dropSpace (h : dropSpace o = []) : Blank o := by
  obtain ⟨s, hs, ho⟩ := blank_dropSpace o
  rw [h, List.append_nil] at ho
  rwa [ho]

theorem stops_cons (h : digit? b = none ∧ b ≠ 46 ∧ b ≠ 101 ∧ b ≠ 69) (o : Octets) :
    Stops (b :: o) := by
  rintro c ⟨⟩
  exact h

theorem Blank.stops (hs : Blank s) (h : Stops rest) : Stops (s ++ rest) := by
  cases s with
  | nil => exact h
  | cons b s =>
    have hb := hs b List.mem_cons_self
    simp only [isSpace, Bool.or_eq_true, decide_eq_true_eq] at hb
    refine stops_cons ?_ _
    rcases hb with ((rfl | rfl) | rfl) | rfl <;> decide

theorem Blank.stops_cons (ht : Blank t) (hb : b = 44 ∨ b = 93 ∨ b = 125) (o : Octets) :
    Stops (t ++ b :: o) := by
  refine ht.stops (Json.stops_cons ?_ o)
  rcases hb with rfl | rfl | rfl <;> decide

theorem ne_of_digit {c : UInt8} (h : (digit? b).isSome) (hc : digit? c = none) : b ≠ c := by
  rintro rfl
  rw [hc] at h
  cases h

theorem digit?_of_isSpace (h : isSpace b) : digit? b = none := by
  simp only [isSpace, Bool.or_eq_true, decide_eq_true_eq] at h
  rcases h with ((rfl | rfl) | rfl) | rfl <;> rfl

theorem isSpace_of_digit (h : (digit? b).isSome) : isSpace b = false :=
  Bool.eq_false_iff.2 fun hs ↦ ne_of_digit h (digit?_of_isSpace hs) rfl

theorem IsScalar.head (h : IsScalar v) : ∃ b w, v = b :: w ∧ isSpace b = false ∧ b ≠ 93 := by
  cases h with
  | null => exact ⟨110, _, rfl, rfl, by decide⟩
  | bool t =>
    cases t
    · exact ⟨102, _, rfl, rfl, by decide⟩
    · exact ⟨116, _, rfl, rfl, by decide⟩
  | number h =>
    rcases h with h | ⟨w, rfl, -⟩
    · obtain ⟨b, w, rfl, hb⟩ := h.head
      exact ⟨b, w, rfl, isSpace_of_digit hb, ne_of_digit hb rfl⟩
    · exact ⟨45, w, rfl, rfl, by decide⟩
  | text h => exact ⟨34, _, rfl, rfl, by decide⟩

/-- No value starts with a blank or like the end of a list. -/
theorem IsValue.head (h : IsValue v) : ∃ b w, v = b :: w ∧ isSpace b = false ∧ b ≠ 93 := by
  cases h with
  | scalar h => exact h.head
  | list h => exact ⟨91, _, rfl, rfl, by decide⟩
  | object h => exact ⟨123, _, rfl, rfl, by decide⟩

theorem IsList.trim {vs : List Octets} (h : IsList (v :: vs) o) :
    ∃ s b p, Blank s ∧ o = s ++ b :: p ∧ isSpace b = false ∧ b ≠ 93 ∧
      IsList (v :: vs) (b :: p) := by
  cases h with
  | last hv ho =>
    obtain ⟨s, t, hs, ht, rfl⟩ := ho
    obtain ⟨b, w, rfl, hb, hne⟩ := hv.head
    exact ⟨s, b, w ++ t, hs, rfl, hb, hne, .last hv ⟨[], t, by simp [Blank], ht, rfl⟩⟩
  | @more _ _ _ p _ hv ho h =>
    obtain ⟨s, t, hs, ht, rfl⟩ := ho
    obtain ⟨b, w, rfl, hb, hne⟩ := hv.head
    exact ⟨s, b, w ++ t ++ 44 :: p, hs, by simp, hb, hne,
      .more hv ⟨[], t, by simp [Blank], ht, rfl⟩ h⟩

theorem IsObject.trim {m : Octets × Octets} {ms : List (Octets × Octets)}
    (h : IsObject (m :: ms) o) :
    ∃ s p, Blank s ∧ o = s ++ 34 :: p ∧ IsObject (m :: ms) (34 :: p) := by
  cases h with
  | @last k _ _ hk hv ho =>
    obtain ⟨_, b, ⟨s, t, hs, ht, rfl⟩, hb, rfl⟩ := ho
    refine ⟨s, _, hs, ?_,
      .last hk hv ⟨quoted k ++ t, b, ⟨[], t, by simp [Blank], ht, rfl⟩, hb, rfl⟩⟩
    simp [quoted]
  | @more k _ _ p _ _ hk hv ho h =>
    obtain ⟨_, b, ⟨s, t, hs, ht, rfl⟩, hb, rfl⟩ := ho
    refine ⟨s, _, hs, ?_,
      .more hk hv ⟨quoted k ++ t, b, ⟨[], t, by simp [Blank], ht, rfl⟩, hb, rfl⟩ h⟩
    simp [quoted]

theorem exists_of_isMember {k r : Octets} (h : IsMember k v o) (hp : 34 :: p = o ++ r) :
    ∃ a s t, Blank a ∧ Blank s ∧ Blank t ∧
      p = k ++ 34 :: (a ++ 58 :: (s ++ (v ++ (t ++ r)))) := by
  obtain ⟨_, _, ⟨u, a, hu, ha, rfl⟩, ⟨s, t, hs, ht, rfl⟩, rfl⟩ := h
  refine ⟨a, s, t, ha, hs, ht, ?_⟩
  cases u with
  | nil => simpa [quoted] using hp
  | cons b u =>
    have hb := hu b List.mem_cons_self
    simp only [List.cons_append, List.cons.injEq] at hp
    rw [← hp.1] at hb
    cases hb

end Gatehouse.Json
