namespace Gatehouse

/-- A point in time: the seconds since 1970, and the nanoseconds within the second. A billion and
more nanoseconds mean that the second is followed by a leap second, and lie within that one. -/
structure Instant where
  seconds : Int
  nanos : Nat
  deriving DecidableEq, Repr, Inhabited

abbrev Span := Int

namespace Instant

def before (a b : Instant) : Bool :=
  decide (a.seconds < b.seconds) || (a.seconds == b.seconds && decide (a.nanos < b.nanos))

def atMost (a b : Instant) : Bool := !b.before a

theorem before_iff {a b : Instant} :
    a.before b ↔ a.seconds < b.seconds ∨ a.seconds = b.seconds ∧ a.nanos < b.nanos := by
  simp [before]

theorem not_before_self (a : Instant) : a.before a = false := by simp [before]

theorem atMost_iff {a b : Instant} :
    a.atMost b ↔ a.seconds < b.seconds ∨ a.seconds = b.seconds ∧ a.nanos ≤ b.nanos := by
  simp only [atMost, Bool.not_eq_true', Bool.eq_false_iff, ne_eq, before_iff]
  omega

theorem atMost_trans {a b c : Instant} (h : a.atMost b) (h' : b.atMost c) : a.atMost c := by
  rw [atMost_iff] at *
  omega

theorem atMost_self (a : Instant) : a.atMost a := by
  rw [atMost_iff]
  omega

theorem not_atMost {a b : Instant} : ¬a.atMost b ↔ b.before a := by simp [atMost]

theorem atMost_of_before {a b : Instant} (h : a.before b) : a.atMost b := by
  rw [before_iff] at h
  rw [atMost_iff]
  omega

def billion : Nat := 1000000000

def daySeconds : Int := 86400

def ofDay (a : Instant) : Int := a.seconds % daySeconds

def isLeap (a : Instant) : Bool := decide (billion ≤ a.nanos)

/-- The time from `b` to `a`. A leap second between them counts, if one of the two tells of it. -/
def since (a b : Instant) : Span :=
  let correction : Int :=
    if b.ofDay < a.ofDay ∧ b.isLeap then 1 else if a.ofDay < b.ofDay ∧ a.isLeap then -1 else 0
  (a.seconds - b.seconds + correction) * billion + (a.nanos - b.nanos)

/-- The instant a span later. Within a leap second the time runs on; whoever leaves it counts on
as if it had not been there. -/
def after (a : Instant) (d : Span) : Instant :=
  let whole := d.tdiv billion
  let part := d.tmod billion
  let normal (seconds nanos : Int) : Instant :=
    if nanos < 0 then ⟨seconds - 1, (nanos + billion).toNat⟩
    else if (billion : Int) ≤ nanos then ⟨seconds + 1, (nanos - billion).toNat⟩
    else ⟨seconds, nanos.toNat⟩
  if a.isLeap then
    if 0 < whole ∨ (0 < part ∧ 2 * (billion : Int) - part ≤ a.nanos) then
      normal (a.seconds + whole) (a.nanos - billion + part)
    else if whole < 0 then normal (a.seconds + 1 + whole) (a.nanos - billion + part)
    else ⟨a.seconds, (a.nanos + part).toNat⟩
  else normal (a.seconds + whole) (a.nanos + part)

def milliseconds (n : Int) : Span := n * 1000000

def minutes (n : Int) : Span := n * 60 * billion

def hours (n : Int) : Span := n * 3600 * billion

end Instant

structure Date where
  year : Int
  month : Nat
  day : Nat
  deriving DecidableEq, Repr

namespace Date

def isLeapYear (y : Int) : Bool := y % 4 = 0 && (y % 100 ≠ 0 || y % 400 = 0)

def monthLength (y : Int) (m : Nat) : Nat :=
  if m = 2 then if isLeapYear y then 29 else 28
  else if m = 4 ∨ m = 6 ∨ m = 9 ∨ m = 11 then 30 else 31

def yearStart (y : Int) : Int :=
  let p := y - 1
  365 * p + p / 4 - p / 100 + p / 400 - 719162

def monthStart (y : Int) (m : Nat) : Nat :=
  ((List.range m).drop 1).foldl (fun n k ↦ n + monthLength y k) 0

def isValid (d : Date) : Bool :=
  -262143 ≤ d.year && d.year ≤ 262142 && 1 ≤ d.month && d.month ≤ 12 && 1 ≤ d.day &&
    d.day ≤ monthLength d.year d.month

def dayNumber (d : Date) : Int := yearStart d.year + monthStart d.year d.month + (d.day - 1)

/-- The year in which a day falls: the average length of a year leads at most one year astray. -/
def yearOf (n : Int) : Int :=
  let y := (n + 719162) * 400 / 146097 + 1
  if n < yearStart y then y - 1 else if yearStart (y + 1) ≤ n then y + 1 else y

/-- The day of the month, given the day of the year, from a month on; `left` months are left. -/
def inMonth (y : Int) : Nat → Nat → Nat → Nat × Nat
  | 0, m, d => (m, d + 1)
  | left + 1, m, d =>
    if d < monthLength y m then (m, d + 1) else inMonth y left (m + 1) (d - monthLength y m)

def ofDayNumber (n : Int) : Date :=
  let y := yearOf n
  let (m, d) := inMonth y 12 1 (n - yearStart y).toNat
  ⟨y, m, d⟩

def weekday (n : Int) : Nat := ((n + 4) % 7).toNat

end Date

namespace Instant

def date (a : Instant) : Date := Date.ofDayNumber (a.seconds / daySeconds)

def ofDate (d : Date) (secondOfDay : Int) (nanos : Nat) : Instant :=
  ⟨d.dayNumber * daySeconds + secondOfDay, nanos⟩

def earliest : Instant := ofDate ⟨-262143, 1, 1⟩ 0 0

def latest : Instant := ofDate ⟨262142, 12, 31⟩ 86399 999999999

def epoch : Instant := ⟨0, 0⟩

def isValid (a : Instant) : Bool :=
  decide (earliest.seconds ≤ a.seconds ∧ a.seconds ≤ latest.seconds)

end Instant

end Gatehouse
