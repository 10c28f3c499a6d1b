import Gatehouse.Instant

namespace Gatehouse

namespace Date

variable {y n : Int} {m d k : Nat}

theorem monthStart_one (y : Int) : monthStart y 1 = 0 := rfl

theorem monthStart_succ (y : Int) (h : 1 ≤ m) :
    monthStart y (m + 1) = monthStart y m + monthLength y m := by
  have hd : ((List.range (m + 1)).drop 1) = (List.range m).drop 1 ++ [m] := by
    rw [List.range_succ, List.drop_append_of_le_length (by simpa using h)]
  rw [monthStart, hd, List.foldl_append]
  rfl

theorem yearStart_succ (y : Int) : yearStart (y + 1) = yearStart y + monthStart y 13 := by
  have hm : monthStart y 13 = if isLeapYear y then 366 else 365 := by
    cases h : isLeapYear y <;> simp [monthStart, List.range_succ, monthLength, h]
  rw [hm]
  simp only [isLeapYear, yearStart, Bool.and_eq_true, Bool.or_eq_true, decide_eq_true_eq]
  split <;> omega

theorem yearStart_mono {x : Int} (h : x ≤ y) : yearStart x ≤ yearStart y := by
  simp only [yearStart]
  omega

theorem yearOf_bounds (n : Int) : yearStart (yearOf n) ≤ n ∧ n < yearStart (yearOf n + 1) := by
  simp only [yearOf]
  split
  · simp only [yearStart] at *
    omega
  · split
    · simp only [yearStart] at *
      omega
    · omega

/-- Counting through the months leads to the one in which the day lies. -/
theorem inMonth_spec (hm : 1 ≤ m) (hl : m + k = 13) (hd : monthStart y m + d < monthStart y 13) :
    1 ≤ (inMonth y k m d).1 ∧ (inMonth y k m d).1 ≤ 12 ∧ 1 ≤ (inMonth y k m d).2 ∧
      (inMonth y k m d).2 ≤ monthLength y (inMonth y k m d).1 ∧
      monthStart y (inMonth y k m d).1 + ((inMonth y k m d).2 - 1) = monthStart y m + d := by
  induction k generalizing m d with
  | zero =>
    obtain rfl : m = 13 := hl
    omega
  | succ k ih =>
    rw [inMonth]
    split
    · refine ⟨hm, by omega, Nat.succ_le_succ (Nat.zero_le d), by assumption, ?_⟩
      rw [Nat.add_sub_cancel]
    · have hs := monthStart_succ y hm
      have hn := ih (m := m + 1) (d := d - monthLength y m) (Nat.le_succ_of_le hm) (by omega)
        (by omega)
      refine ⟨hn.1, hn.2.1, hn.2.2.1, hn.2.2.2.1, ?_⟩
      rw [hn.2.2.2.2]
      omega

theorem ofDayNumber_spec (n : Int) :
    1 ≤ (ofDayNumber n).month ∧ (ofDayNumber n).month ≤ 12 ∧ 1 ≤ (ofDayNumber n).day ∧
      (ofDayNumber n).day ≤ monthLength (ofDayNumber n).year (ofDayNumber n).month ∧
      (monthStart (ofDayNumber n).year (ofDayNumber n).month +
        ((ofDayNumber n).day - 1 : Nat) : Int) = n - yearStart (ofDayNumber n).year := by
  obtain ⟨hlow, hhigh⟩ := yearOf_bounds n
  have hs := yearStart_succ (yearOf n)
  have hone := monthStart_one (yearOf n)
  have hspec := inMonth_spec (y := yearOf n) (k := 12) (m := 1)
    (d := (n - yearStart (yearOf n)).toNat) (Nat.le_refl 1) rfl (by omega)
  refine ⟨hspec.1, hspec.2.1, hspec.2.2.1, hspec.2.2.2.1, ?_⟩
  have hsum := hspec.2.2.2.2
  simp only [ofDayNumber]
  omega

@[simp] theorem dayNumber_ofDayNumber (n : Int) : (ofDayNumber n).dayNumber = n := by
  obtain ⟨-, -, hday, -, hsum⟩ := ofDayNumber_spec n
  simp only [dayNumber]
  omega

theorem year_ofDayNumber (n : Int) : (ofDayNumber n).year = yearOf n := rfl

theorem isValid_ofDayNumber (hlow : yearStart (-262143) ≤ n) (hhigh : n < yearStart 262143) :
    (ofDayNumber n).isValid := by
  obtain ⟨hm, hm', hd, hd', -⟩ := ofDayNumber_spec n
  obtain ⟨hl, hh⟩ := yearOf_bounds n
  have hy : -262143 ≤ (ofDayNumber n).year := by
    rw [year_ofDayNumber]
    rcases Int.lt_or_le (yearOf n) (-262143) with h | h
    · have := yearStart_mono (x := yearOf n + 1) (y := -262143) (by omega)
      omega
    · exact h
  have hy' : (ofDayNumber n).year ≤ 262142 := by
    rw [year_ofDayNumber]
    rcases Int.lt_or_le 262142 (yearOf n) with h | h
    · have := yearStart_mono (x := 262143) (y := yearOf n) (by omega)
      omega
    · exact h
  simp [isValid, hy, hy', hm, hm', hd, hd']

end Date

namespace Instant

variable {a : Instant}

/-- What a clock can show: a time within the calendar, in which a leap second is the last of its
minute. -/
structure IsProper (a : Instant) : Prop where
  isValid : a.isValid
  nanos_lt : a.nanos < 2 * billion
  leap : a.isLeap → a.seconds % 60 = 59

theorem date_isValid (h : a.isValid) : a.date.isValid := by
  simp only [Instant.isValid, decide_eq_true_eq] at h
  have hlow : earliest.seconds = Date.yearStart (-262143) * 86400 := by decide
  have hhigh : latest.seconds + 1 = Date.yearStart 262143 * 86400 := by decide
  apply Date.isValid_ofDayNumber
  · simp only [daySeconds]
    omega
  · simp only [daySeconds]
    omega

theorem ofDay_bounds (a : Instant) : 0 ≤ a.ofDay ∧ a.ofDay < 86400 := by
  simp only [ofDay, daySeconds]
  omega

theorem ofDate_date (a : Instant) : ofDate a.date a.ofDay a.nanos = a := by
  have hs : a.seconds / daySeconds * daySeconds + a.seconds % daySeconds = a.seconds :=
    Int.mul_comm _ _ ▸ Int.mul_ediv_add_emod a.seconds daySeconds
  rw [ofDate, date, Date.dayNumber_ofDayNumber, ofDay, hs]

/-- Whole hours later: a leap second is not counted. -/
theorem after_hours {n : Int} (ha : a.nanos < 2 * billion) (hn : 0 < n) :
    a.after (hours n) = ⟨a.seconds + n * 3600, a.nanos % billion⟩ := by
  have hb : billion = 1000000000 := rfl
  have hw : (hours n).tdiv billion = n * 3600 := Int.mul_tdiv_cancel _ (by omega)
  have hp : (hours n).tmod billion = 0 := Int.mul_tmod_left _ _
  simp only [after, hw, hp, isLeap, decide_eq_true_eq, Int.add_zero]
  by_cases hl : billion ≤ a.nanos
  · rw [if_pos hl, if_pos (by omega), if_neg (by omega), if_neg (by omega), mk.injEq, hb]
    omega
  · rw [if_neg hl, if_neg (by omega), if_neg (by omega), mk.injEq, hb]
    omega

/-- What a clock shows while the calendar has room for the sessions that are made. -/
structure IsReading (a : Instant) : Prop extends IsProper a where
  room : (a.after (hours 72)).isValid

theorem isReading_of_second {n : Int} (hlow : 0 ≤ n) (hhigh : n ≤ 86400) : IsReading ⟨n, 0⟩ := by
  have hfirst : earliest.seconds ≤ 0 := by decide
  have hlast : 86400 + 72 * 3600 ≤ latest.seconds := by decide
  have hnanos : 0 < 2 * billion := by decide
  refine ⟨⟨?_, hnanos, ?_⟩, ?_⟩
  · simp only [Instant.isValid, decide_eq_true_eq]
    omega
  · simp [isLeap, billion]
  · rw [after_hours hnanos (by decide)]
    simp only [Instant.isValid, decide_eq_true_eq]
    omega

theorem IsReading.after {n : Int} (h : a.IsReading) (hn : 0 < n) (hn' : n ≤ 72) :
    (a.after (hours n)).IsProper := by
  have hlow := h.isValid
  have hhigh := h.room
  rw [after_hours h.nanos_lt (by decide)] at hhigh
  rw [after_hours h.nanos_lt hn]
  simp only [Instant.isValid, decide_eq_true_eq] at hlow hhigh
  have hmod : a.nanos % billion < billion := Nat.mod_lt _ (by decide)
  refine ⟨?_, Nat.lt_of_lt_of_le hmod (by decide), fun hl ↦ ?_⟩
  · simp only [Instant.isValid, decide_eq_true_eq]
    omega
  · simp only [isLeap, decide_eq_true_eq] at hl
    exact absurd hmod (Nat.not_lt.2 hl)

end Instant

end Gatehouse
