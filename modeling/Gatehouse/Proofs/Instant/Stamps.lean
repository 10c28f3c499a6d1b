import Mathlib.Algebra.Group.Nat.Defs
import Gatehouse.Instant.Stamp
import Gatehouse.Proofs.Instant.Calendar

namespace Gatehouse.Instant

variable {a : Instant} {c : Char} {s ds : List Char} {i k n m low high : Nat}

theorem isBlank_of_isDigit (h : c.isDigit) : Text.isBlank c = false := by
  simp only [Char.isDigit, Bool.and_eq_true, decide_eq_true_eq, UInt32.le_iff_toNat_le] at h
  have h' : 48 ≤ c.toNat ∧ c.toNat ≤ 57 := h
  simp only [Text.isBlank, Bool.or_eq_false_iff, Bool.and_eq_false_imp, decide_eq_true_eq,
    decide_eq_false_iff_not]
  omega

theorem trimFront_cons (h : Text.isBlank c = false) : Text.trimFront (c :: s) = c :: s := by
  rw [Text.trimFront, List.dropWhile_cons_of_neg (by simp [h])]

theorem ne_of_isDigit {d : Char} (h : c.isDigit) (hd : d.isDigit = false) : c ≠ d := by
  rintro rfl
  rw [h] at hd
  cases hd

theorem isDigit_of_mem_padded (h : c ∈ padded m n) : c.isDigit := by
  rw [padded, List.mem_append] at h
  rcases h with h | h
  · rw [List.eq_of_mem_replicate h]
    rfl
  · exact Nat.isDigit_of_mem_toDigits (by decide) (by decide) h

theorem ofDigitChars_padded (m n : Nat) : Nat.ofDigitChars 10 (padded m n) 0 = n := by
  rw [padded, Nat.ofDigitChars_append, Nat.ofDigitChars_replicate_zero, Nat.mul_zero,
    Nat.ofDigitChars_toDigits (by decide) (by decide)]

theorem length_padded (hw : 0 < m) (h : n < 10 ^ m) : (padded m n).length = m := by
  have hl := (Nat.length_toDigits_le_iff (b := 10) (n := n) (by decide) hw).2 h
  rw [padded, List.length_append, List.length_replicate]
  omega

theorem exists_cons_padded (m n : Nat) : ∃ c s, padded m n = c :: s ∧ c.isDigit := by
  have hp : 0 < (padded m n).length := by
    rw [padded, List.length_append]
    exact Nat.add_pos_right _ Nat.length_toDigits_pos
  obtain ⟨c, s, h⟩ := List.exists_cons_of_length_pos hp
  exact ⟨c, s, h, isDigit_of_mem_padded (h ▸ List.mem_cons_self)⟩

theorem takeNumber_append (hd : ∀ d ∈ ds, d.isDigit) (hl : ds.length ≤ m)
    (hc : c.isDigit = false) :
    takeNumber m i (ds ++ c :: s) = (Nat.ofDigitChars 10 ds i, c :: s) := by
  induction ds generalizing m i with
  | nil => cases m <;> simp [takeNumber, hc, Nat.ofDigitChars]
  | cons d ds ih =>
    obtain ⟨w, rfl⟩ := Nat.exists_eq_add_one.2 (Nat.zero_lt_of_lt hl)
    have htail := ih (i := 10 * i + (d.toNat - 48))
      (fun e he ↦ hd e (List.mem_cons_of_mem d he)) (Nat.le_of_succ_le_succ hl)
    rw [List.cons_append, takeNumber, if_pos (hd d List.mem_cons_self), htail]
    rfl

theorem readNumber_padded (hl : (padded k n).length ≤ m) (hc : c.isDigit = false) :
    readNumber m (padded k n ++ c :: s) = .ok (n, c :: s) := by
  have htake := takeNumber_append (i := 0) (s := s) (fun d hd ↦ isDigit_of_mem_padded hd) hl hc
  obtain ⟨d, t, hp, hd⟩ := exists_cons_padded k n
  rw [ofDigitChars_padded] at htake
  rw [hp, List.cons_append] at htake ⊢
  simp only [readNumber, hd, htake, if_true]

theorem trimFront_padded (k n : Nat) (s : List Char) :
    Text.trimFront (padded k n ++ s) = padded k n ++ s := by
  obtain ⟨d, t, hp, hd⟩ := exists_cons_padded k n
  rw [hp, List.cons_append, trimFront_cons (isBlank_of_isDigit hd)]

theorem readPart_padded (hlow : low ≤ n) (hhigh : n ≤ high) (h : high < 100)
    (hc : c.isDigit = false) : readPart low high (padded 2 n ++ c :: s) = .ok (n, c :: s) := by
  have hl := length_padded (m := 2) (n := n) (by decide) (by omega)
  rw [readPart, trimFront_padded, readNumber_padded (Nat.le_of_eq hl) hc]
  simp [bind, Except.bind, pure, Except.pure, hlow, hhigh]

theorem readSign_cons (h : Text.isBlank c = false) : readSign c (c :: s) = .ok ((), s) := by
  simp [readSign, trimFront_cons h]

theorem readYear_yearText {y : Int} (hlow : -262143 ≤ y) (hhigh : y ≤ 262142)
    (hc : c.isDigit = false) : readYear (yearText y ++ c :: s) = .ok (y, c :: s) := by
  unfold yearText
  split
  · have hl := length_padded (m := 4) (n := y.toNat) (by decide) (by omega)
    obtain ⟨d, t, hp, hd⟩ := exists_cons_padded 4 y.toNat
    have hm := ne_of_isDigit (d := '-') hd rfl
    have hp' := ne_of_isDigit (d := '+') hd rfl
    have hread := readNumber_padded (s := s) (Nat.le_of_eq hl) hc
    rw [readYear, trimFront_padded]
    rw [hp, List.cons_append] at hread ⊢
    split
    · exact absurd (List.cons.inj ‹_›).1 hm
    · exact absurd (List.cons.inj ‹_›).1 hp'
    · have hy : (y.toNat : Int) = y := by omega
      simp only [hread, hy, bind, Except.bind, pure, Except.pure]
  · have hread := readNumber_padded (k := 4) (n := y.natAbs) (s := s)
      (m := (padded 4 y.natAbs ++ c :: s).length) (by simp) hc
    have hmax : y.natAbs ≤ maxYear := by
      simp only [maxYear]
      omega
    split
    · have hy : -(y.natAbs : Int) = y := by omega
      have hle : y.natAbs ≤ maxYear + 1 := by omega
      rw [readYear, List.cons_append, trimFront_cons rfl]
      simp only [hread, hle, hy, bind, Except.bind, pure, Except.pure, if_true]
    · have hy : (y.natAbs : Int) = y := by omega
      rw [readYear, List.cons_append, trimFront_cons rfl]
      simp only [hread, hmax, hy, bind, Except.bind, pure, Except.pure, Bool.false_eq_true, if_true,
        if_false, Nat.add_zero]

def fractionZ (nanos : Nat) : List Char := fractionText nanos ++ ['Z']

theorem readFraction_padded (hw : 0 < m) (hn : m ≤ 9) (h : n < 10 ^ m) :
    readFraction (padded m n ++ ['Z']) = .ok (n * 10 ^ (9 - m), ['Z']) := by
  have hl := length_padded hw h
  have hread := readNumber_padded (c := 'Z') (s := []) (Nat.le_trans (Nat.le_of_eq hl) hn) rfl
  rw [readFraction, hread]
  simp [bind, Except.bind, pure, Except.pure, hl, List.dropWhile]

theorem fractionZ_cases (h : n < billion) :
    n = 0 ∧ fractionZ n = ['Z'] ∨
      ∃ s, fractionZ n = '.' :: s ∧ readFraction s = .ok (n, ['Z']) := by
  simp only [billion] at h
  unfold fractionZ fractionText
  split
  · exact .inl ⟨by assumption, rfl⟩
  · split
    · have hread := readFraction_padded (m := 3) (n := n / 1000000) (by decide) (by decide)
        (by omega)
      have hn : n / 1000000 * 10 ^ (9 - 3) = n := by omega
      rw [hn] at hread
      exact .inr ⟨_, rfl, hread⟩
    · split
      · have hread := readFraction_padded (m := 6) (n := n / 1000) (by decide) (by decide)
          (by omega)
        have hn : n / 1000 * 10 ^ (9 - 6) = n := by omega
        rw [hn] at hread
        exact .inr ⟨_, rfl, hread⟩
      · have hread := readFraction_padded (m := 9) (n := n) (by decide) (by decide) (by omega)
        have hn : n * 10 ^ (9 - 9) = n := Nat.mul_one n
        rw [hn] at hread
        exact .inr ⟨_, rfl, hread⟩

def timeText (a : Instant) : List Char :=
  let s := a.ofDay.toNat
  padded 2 (s / 3600) ++ ':' :: padded 2 (s / 60 % 60) ++
    ':' :: padded 2 (s % 60 + a.nanos / billion) ++ fractionZ (a.nanos % billion)

theorem readTime_timeText (h : a.IsProper) :
    readTime (timeText a) = .ok ((a.ofDay.toNat, a.nanos), ['Z']) := by
  obtain ⟨hday, hday'⟩ := ofDay_bounds a
  have hnanos := h.nanos_lt
  have hleap : billion ≤ a.nanos → a.ofDay.toNat % 60 = 59 := by
    intro hb
    have := h.leap (by simpa [isLeap] using hb)
    simp only [ofDay, daySeconds] at *
    omega
  have hhour : a.ofDay.toNat / 3600 ≤ 23 := by omega
  have hminute : a.ofDay.toNat / 60 % 60 ≤ 59 := by omega
  have hsecond : a.ofDay.toNat % 60 + a.nanos / billion ≤ 60 := by
    simp only [billion] at *
    omega
  -- the sixtieth second is the one that stands for a leap second
  have hresult : (if a.ofDay.toNat % 60 + a.nanos / billion = 60 then
      (.ok ((3600 * (a.ofDay.toNat / 3600) + 60 * (a.ofDay.toNat / 60 % 60) + 59,
        a.nanos % billion + billion), ['Z']) : Except StampError ((Nat × Nat) × List Char))
      else .ok ((3600 * (a.ofDay.toNat / 3600) + 60 * (a.ofDay.toNat / 60 % 60) +
        (a.ofDay.toNat % 60 + a.nanos / billion), a.nanos % billion), ['Z'])) =
      .ok ((a.ofDay.toNat, a.nanos), ['Z']) := by
    split
    · simp only [billion] at *
      rw [show 3600 * (a.ofDay.toNat / 3600) + 60 * (a.ofDay.toNat / 60 % 60) + 59 =
        a.ofDay.toNat by omega, show a.nanos % 1000000000 + 1000000000 = a.nanos by omega]
    · simp only [billion] at *
      rw [show 3600 * (a.ofDay.toNat / 3600) + 60 * (a.ofDay.toNat / 60 % 60) +
        (a.ofDay.toNat % 60 + a.nanos / 1000000000) = a.ofDay.toNat by omega,
        show a.nanos % 1000000000 = a.nanos by omega]
  rw [timeText, readTime]
  simp only [List.append_assoc, List.cons_append, bind, Except.bind]
  rw [readPart_padded (Nat.zero_le _) hhour (by decide) rfl]
  simp only []
  rw [readSign_cons rfl]
  simp only []
  rw [readPart_padded (Nat.zero_le _) hminute (by decide) rfl]
  simp only []
  rw [readSign_cons rfl]
  rcases fractionZ_cases (Nat.mod_lt a.nanos (by decide : 0 < billion)) with
    ⟨h0, hf⟩ | ⟨s, hf, hs⟩
  · simp only [hf]
    rw [readPart_padded (Nat.zero_le _) hsecond (by decide) rfl]
    rw [h0] at hresult
    exact hresult
  · simp only [hf]
    rw [readPart_padded (Nat.zero_le _) hsecond (by decide) rfl]
    simp only [hs]
    exact hresult

/-- An instant that a clock can show is read back from its stamp. -/
theorem ofStamp_stamp (h : a.IsProper) : ofStamp a.stamp = .ok a := by
  have hdate := date_isValid h.isValid
  have hd := hdate
  simp only [Date.isValid, Bool.and_eq_true, decide_eq_true_eq] at hd
  obtain ⟨⟨⟨⟨⟨hy, hy'⟩, hm⟩, hm'⟩, hd⟩, hd'⟩ := hd
  have hlength : Date.monthLength a.date.year a.date.month ≤ 31 := by
    unfold Date.monthLength
    split
    · split <;> decide
    · split <;> decide
  have hshape : a.stamp.toList = yearText a.date.year ++ '-' :: (padded 2 a.date.month ++
      '-' :: (padded 2 a.date.day ++ 'T' :: timeText a)) := by
    simp [stamp, timeText, fractionZ]
  have hback : ofDate a.date ((a.ofDay.toNat : Int) - 0) a.nanos = a := by
    rw [Int.sub_zero, Int.toNat_of_nonneg (ofDay_bounds a).1, ofDate_date]
  rw [ofStamp, hshape, readDate]
  simp only [bind, Except.bind]
  rw [readYear_yearText hy hy' rfl]
  simp only []
  rw [readSign_cons rfl]
  simp only []
  rw [readPart_padded hm hm' (by decide) rfl]
  simp only []
  rw [readSign_cons rfl]
  simp only []
  rw [readPart_padded hd (Nat.le_trans hd' hlength) (by decide) rfl]
  have htail : readOffset (Text.trimFront ['Z']) = .ok (0, []) := rfl
  have hend : (Text.trimFront []).isEmpty = true := rfl
  simp only [pure, Except.pure, readTime_timeText h, htail, hend, hdate, hback, h.isValid, if_true]
  rfl

end Gatehouse.Instant
