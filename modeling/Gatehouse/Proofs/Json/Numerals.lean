import Gatehouse.Json.Reader
import Gatehouse.Proofs.Except

namespace Gatehouse.Json

variable {b : UInt8} {ds : List Nat} {o v rest : Octets}

def IsDigits (v : Octets) : Prop := v ≠ [] ∧ ∀ b ∈ v, (digit? b).isSome

/-- Digits that start with zero only if zero is all that there is. -/
def IsWhole (v : Octets) : Prop := IsDigits v ∧ (v.head? = some 48 → v = [48])

def IsFraction (v : Octets) : Prop := v = [] ∨ ∃ ds, v = 46 :: ds ∧ IsDigits ds

def IsExponent (v : Octets) : Prop :=
  v = [] ∨ ∃ e sign ds, v = e :: (sign ++ ds) ∧ (e = 101 ∨ e = 69) ∧
    (sign = [] ∨ sign = [43] ∨ sign = [45]) ∧ IsDigits ds

inductive IsMagnitude : Octets → Prop
  | mk {whole fraction exponent : Octets} (hw : IsWhole whole) (hf : IsFraction fraction)
      (he : IsExponent exponent) : IsMagnitude (whole ++ (fraction ++ exponent))

def IsNumeral (v : Octets) : Prop := IsMagnitude v ∨ ∃ w, v = 45 :: w ∧ IsMagnitude w

/-- No numeral goes on here. -/
def Stops (rest : Octets) : Prop :=
  ∀ b ∈ rest.head?, digit? b = none ∧ b ≠ 46 ∧ b ≠ 101 ∧ b ≠ 69

theorem digit?_eq_zero : digit? b = some 0 ↔ b = 48 := by
  rw [digit?, ← UInt8.toNat_inj]
  split <;> simp <;> omega

theorem exists_values (h : ∀ b ∈ v, (digit? b).isSome) :
    ∃ ds : List Nat, v.map digit? = ds.map some := by
  induction v with
  | nil => exact ⟨[], rfl⟩
  | cons b v ih =>
    obtain ⟨d, hd⟩ := Option.isSome_iff_exists.1 (h b List.mem_cons_self)
    obtain ⟨ds, hds⟩ := ih fun c hc ↦ h c (List.mem_cons_of_mem b hc)
    exact ⟨d :: ds, by rw [List.map_cons, hd, hds]; rfl⟩

theorem isSome_of_values (h : v.map digit? = ds.map some) : ∀ b ∈ v, (digit? b).isSome := by
  intro b hb
  have hm := List.mem_map_of_mem (f := digit?) hb
  rw [h] at hm
  obtain ⟨d, -, hd⟩ := List.mem_map.1 hm
  rw [← hd]
  rfl

theorem digits_append (h : v.map digit? = ds.map some) (hr : ∀ b ∈ rest.head?, digit? b = none) :
    digits (v ++ rest) = (ds, rest) := by
  induction v generalizing ds with
  | nil =>
    cases ds with
    | cons d ds => cases h
    | nil =>
      cases rest with
      | nil => rfl
      | cons b rest => simp [digits, hr b rfl]
  | cons b v ih =>
    cases ds with
    | nil => cases h
    | cons d ds =>
      simp only [List.map_cons, List.cons.injEq] at h
      rw [List.cons_append, digits, h.1, ih h.2]

theorem exists_of_digits (h : digits o = (ds, rest)) :
    ∃ v, o = v ++ rest ∧ v.map digit? = ds.map some := by
  induction o generalizing ds with
  | nil =>
    cases h
    exact ⟨[], rfl, rfl⟩
  | cons b o ih =>
    rw [digits] at h
    cases hb : digit? b with
    | none =>
      simp only [hb] at h
      cases h
      exact ⟨[], rfl, rfl⟩
    | some d =>
      simp only [hb] at h
      obtain ⟨rfl, rfl⟩ := Prod.mk.inj h
      obtain ⟨v, ho, hv⟩ := ih rfl
      exact ⟨b :: v, congrArg (List.cons b) ho, by rw [List.map_cons, hb, hv]; rfl⟩

theorem someDigits_append (h : IsDigits v) (hr : ∀ b ∈ rest.head?, digit? b = none) :
    ∃ ds, someDigits (v ++ rest) = .ok (ds, rest) ∧ v.map digit? = ds.map some := by
  obtain ⟨ds, hds⟩ := exists_values h.2
  refine ⟨ds, ?_, hds⟩
  unfold someDigits
  rw [digits_append hds hr]
  cases ds with
  | nil => exact absurd (List.map_eq_nil_iff.1 hds) h.1
  | cons d ds => rfl

theorem exists_of_someDigits (h : someDigits o = .ok (ds, rest)) :
    ∃ v, o = v ++ rest ∧ IsDigits v ∧ v.map digit? = ds.map some := by
  rcases hd : digits o with ⟨_ | ⟨d, found⟩, o'⟩
  · unfold someDigits at h
    simp only [hd] at h
    cases o <;> cases h
  · have hok : someDigits o = .ok (d :: found, o') := by
      unfold someDigits
      simp only [hd]
    rw [hok] at h
    cases h
    obtain ⟨v, ho, hv⟩ := exists_of_digits hd
    refine ⟨v, ho, ⟨?_, isSome_of_values hv⟩, hv⟩
    rintro rfl
    cases hv

theorem head?_of_values (h : v.map digit? = ds.map some) :
    ds.head? = some 0 ↔ v.head? = some 48 := by
  cases v with
  | nil =>
    cases ds with
    | nil => simp
    | cons d ds => cases h
  | cons b v =>
    cases ds with
    | nil => cases h
    | cons d ds =>
      simp only [List.map_cons, List.cons.injEq] at h
      simp only [List.head?_cons, Option.some.injEq]
      rw [← digit?_eq_zero, h.1, Option.some.injEq]

theorem length_of_values (h : v.map digit? = ds.map some) : ds.length = v.length := by
  simpa using (congrArg List.length h).symm

theorem IsDigits.head (h : IsDigits v) : ∃ b w, v = b :: w ∧ (digit? b).isSome := by
  cases v with
  | nil => exact absurd rfl h.1
  | cons b w => exact ⟨b, w, rfl, h.2 b List.mem_cons_self⟩

theorem readExponent_append (h : IsExponent v) (hr : Stops rest) :
    ∃ x, readExponent (v ++ rest) = .ok (x, rest) := by
  rcases h with rfl | ⟨e, sign, ds, rfl, he, hsign, hds⟩
  · cases rest with
    | nil => exact ⟨none, rfl⟩
    | cons b rest =>
      obtain ⟨-, -, h₁, h₂⟩ := hr b rfl
      exact ⟨none, by simp [readExponent, h₁, h₂]⟩
  · obtain ⟨xs, hxs, -⟩ := someDigits_append hds fun b hb ↦ (hr b hb).1
    obtain ⟨b, w, rfl, hb⟩ := hds.head
    have hplus : b ≠ 43 := by
      rintro rfl
      cases hb
    have hminus : b ≠ 45 := by
      rintro rfl
      cases hb
    rw [List.cons_append] at hxs
    rcases hsign with rfl | rfl | rfl
    · refine ⟨some (false, xs), ?_⟩
      simp [readExponent, he, hxs, bind, Except.bind, pure, Except.pure, hplus, hminus]
    · refine ⟨some (false, xs), ?_⟩
      simp [readExponent, he, hxs, bind, Except.bind, pure, Except.pure]
    · refine ⟨some (true, xs), ?_⟩
      simp [readExponent, he, hxs, bind, Except.bind, pure, Except.pure]

theorem exists_of_readExponent {x : Option (Bool × List Nat)}
    (h : readExponent o = .ok (x, rest)) : ∃ v, o = v ++ rest ∧ IsExponent v := by
  unfold readExponent at h
  split at h
  · next e o =>
    split at h
    · next he =>
      split at h
      next down o' hsplit =>
      have hsign : ∃ sign, o = sign ++ o' ∧ (sign = [] ∨ sign = [43] ∨ sign = [45]) := by
        split at hsplit
        · cases hsplit
          exact ⟨[43], rfl, .inr (.inl rfl)⟩
        · cases hsplit
          exact ⟨[45], rfl, .inr (.inr rfl)⟩
        · cases hsplit
          exact ⟨[], rfl, .inl rfl⟩
      obtain ⟨sign, rfl, hsign⟩ := hsign
      obtain ⟨⟨ds, o''⟩, hds, hrest⟩ := exists_of_bind h
      cases hrest
      obtain ⟨v, rfl, hv, -⟩ := exists_of_someDigits hds
      exact ⟨e :: (sign ++ v), by rw [List.cons_append, List.append_assoc],
        .inr ⟨e, sign, v, rfl, he, hsign, hv⟩⟩
    · cases h
      exact ⟨[], rfl, .inl rfl⟩
  · cases h
    exact ⟨[], rfl, .inl rfl⟩

theorem readFraction_append (h : IsFraction v)
    (hr : ∀ b ∈ rest.head?, digit? b = none ∧ b ≠ 46) :
    ∃ ds, readFraction (v ++ rest) = .ok (ds, rest) := by
  rcases h with rfl | ⟨ds, rfl, hds⟩
  · cases rest with
    | nil => exact ⟨[], rfl⟩
    | cons b rest => exact ⟨[], by simp [readFraction, (hr b rfl).2]⟩
  · obtain ⟨xs, hxs, -⟩ := someDigits_append hds fun b hb ↦ (hr b hb).1
    exact ⟨xs, hxs⟩

theorem exists_of_readFraction (h : readFraction o = .ok (ds, rest)) :
    ∃ v, o = v ++ rest ∧ IsFraction v := by
  unfold readFraction at h
  split at h
  · obtain ⟨v, rfl, hv, -⟩ := exists_of_someDigits h
    exact ⟨46 :: v, rfl, .inr ⟨v, rfl, hv⟩⟩
  · cases h
    exact ⟨[], rfl, .inl rfl⟩

theorem IsExponent.head (h : IsExponent v) (hr : Stops rest) :
    ∀ b ∈ (v ++ rest).head?, digit? b = none ∧ b ≠ 46 := by
  rcases h with rfl | ⟨e, sign, ds, rfl, he, -, -⟩
  · exact fun b hb ↦ ⟨(hr b hb).1, (hr b hb).2.1⟩
  · rintro b ⟨⟩
    rcases he with rfl | rfl <;> decide

theorem IsFraction.head (h : IsFraction v) (hr : ∀ b ∈ rest.head?, digit? b = none) :
    ∀ b ∈ (v ++ rest).head?, digit? b = none := by
  rcases h with rfl | ⟨ds, rfl, -⟩
  · exact hr
  · rintro b ⟨⟩
    decide

theorem readNumeral_append (negative : Bool) (h : IsMagnitude v) (hr : Stops rest) :
    ∃ n, readNumeral negative (v ++ rest) = .ok (n, rest) := by
  obtain ⟨hw, hf, he⟩ := h
  rename_i whole fraction exponent
  obtain ⟨x, hx⟩ := readExponent_append he hr
  obtain ⟨back, hback⟩ := readFraction_append hf (he.head hr)
  have hstop := hf.head fun b hb ↦ (he.head hr b hb).1
  obtain ⟨front, hfront, hvalues⟩ := someDigits_append hw.1 hstop
  have hzero : ¬(front.head? = some 0 ∧ 1 < front.length) := by
    rintro ⟨hzero, hlong⟩
    rw [hw.2 ((head?_of_values hvalues).1 hzero)] at hvalues
    have hlength := length_of_values hvalues
    simp only [List.length_singleton] at hlength
    omega
  refine ⟨⟨negative, front, back, x⟩, ?_⟩
  rw [List.append_assoc, List.append_assoc, readNumeral, hfront]
  simp only [bind, Except.bind, if_neg hzero, hback, hx, pure, Except.pure]

theorem exists_of_readNumeral {negative : Bool} {n : Numeral}
    (h : readNumeral negative o = .ok (n, rest)) : ∃ v, o = v ++ rest ∧ IsMagnitude v := by
  obtain ⟨⟨front, o₁⟩, hfront, hafter⟩ := exists_of_bind h
  obtain ⟨whole, rfl, hdigits, hvalues⟩ := exists_of_someDigits hfront
  dsimp only at hafter
  by_cases hzero : front.head? = some 0 ∧ 1 < front.length
  · rw [if_pos hzero] at hafter
    cases hafter
  · rw [if_neg hzero] at hafter
    obtain ⟨⟨back, o₂⟩, hback, hafter⟩ := exists_of_bind hafter
    obtain ⟨⟨x, o₃⟩, hx, hafter⟩ := exists_of_bind hafter
    cases hafter
    obtain ⟨fraction, rfl, hf⟩ := exists_of_readFraction hback
    obtain ⟨exponent, rfl, he⟩ := exists_of_readExponent hx
    have hw : IsWhole whole := by
      refine ⟨hdigits, fun hhead ↦ ?_⟩
      have hlength := length_of_values hvalues
      have hshort : whole.length ≤ 1 := by
        rw [← hlength]
        exact Nat.not_lt.1 fun hlong ↦ hzero ⟨(head?_of_values hvalues).2 hhead, hlong⟩
      obtain ⟨b, w, rfl, -⟩ := hdigits.head
      cases hhead
      have hnone : w.length ≤ 0 := Nat.le_of_succ_le_succ hshort
      obtain rfl := List.length_eq_zero_iff.1 (Nat.le_zero.1 hnone)
      rfl
    exact ⟨_, by simp only [List.append_assoc], .mk hw hf he⟩

theorem IsMagnitude.head (h : IsMagnitude v) : ∃ b w, v = b :: w ∧ (digit? b).isSome := by
  obtain ⟨hw, -, -⟩ := h
  obtain ⟨b, w, rfl, hb⟩ := hw.1.head
  exact ⟨b, _, rfl, hb⟩

end Gatehouse.Json
