import Gatehouse.Instant
import Gatehouse.Text.Blank
import Gatehouse.Text.Pieces

namespace Gatehouse.Instant

inductive StampError
  | outOfRange
  | impossible
  | invalid
  | tooShort
  | tooLong
  deriving DecidableEq, Repr

def StampError.message : StampError → String
  | .outOfRange => "input is out of range"
  | .impossible => "no possible date and time matching input"
  | .invalid => "input contains invalid characters"
  | .tooShort => "premature end of input"
  | .tooLong => "trailing input"

def padded (width n : Nat) : List Char :=
  let ds := Nat.toDigits 10 n
  List.replicate (width - ds.length) '0' ++ ds

def yearText (y : Int) : List Char :=
  if 0 ≤ y ∧ y ≤ 9999 then padded 4 y.toNat
  else (if y < 0 then '-' else '+') :: padded 4 y.natAbs

/-- As few groups of three digits as lose nothing. -/
def fractionText (nanos : Nat) : List Char :=
  if nanos = 0 then []
  else if nanos % 1000000 = 0 then '.' :: padded 3 (nanos / 1000000)
  else if nanos % 1000 = 0 then '.' :: padded 6 (nanos / 1000)
  else '.' :: padded 9 nanos

def stamp (a : Instant) : String :=
  let d := a.date
  let s := a.ofDay.toNat
  String.ofList <|
    yearText d.year ++ '-' :: padded 2 d.month ++ '-' :: padded 2 d.day ++
    'T' :: padded 2 (s / 3600) ++ ':' :: padded 2 (s / 60 % 60) ++
    ':' :: padded 2 (s % 60 + a.nanos / billion) ++ fractionText (a.nanos % billion) ++ ['Z']

abbrev StampReader (α : Type) := List Char → Except StampError (α × List Char)

def takeNumber : Nat → Nat → List Char → Nat × List Char
  | 0, n, s => (n, s)
  | _, n, [] => (n, [])
  | width + 1, n, c :: s =>
    if c.isDigit then takeNumber width (10 * n + (c.toNat - 48)) s else (n, c :: s)

def readNumber (width : Nat) : StampReader Nat := fun s ↦
  match s with
  | [] => .error .tooShort
  | c :: _ => if c.isDigit then .ok (takeNumber width 0 s) else .error .invalid

def readPart (low high : Nat) : StampReader Nat := fun s ↦ do
  let (n, s) ← readNumber 2 (Text.trimFront s)
  if low ≤ n ∧ n ≤ high then return (n, s) else throw .outOfRange

def readSign (c : Char) : StampReader Unit := fun s ↦
  match Text.trimFront s with
  | [] => .error .tooShort
  | d :: s => if d = c then .ok ((), s) else .error .invalid

def maxYear : Nat := 2147483647

/-- A year of up to four digits, or of any number of digits behind a sign. -/
def readYear : StampReader Int := fun s ↦ do
  let signed (negative : Bool) (s : List Char) : Except StampError (Int × List Char) := do
    let (n, s) ← readNumber s.length s
    if n ≤ maxYear + (if negative then 1 else 0) then
      return (if negative then -(n : Int) else n, s)
    else throw .outOfRange
  match Text.trimFront s with
  | '-' :: s => signed true s
  | '+' :: s => signed false s
  | s =>
    let (n, s) ← readNumber 4 s
    return (n, s)

def readDate : StampReader Date := fun s ↦ do
  let (year, s) ← readYear s
  let (_, s) ← readSign '-' s
  let (month, s) ← readPart 1 12 s
  let (_, s) ← readSign '-' s
  let (day, s) ← readPart 1 31 s
  return (⟨year, month, day⟩, s)

/-- The digits behind a point, as nanoseconds; those beyond the ninth do not count. -/
def readFraction : StampReader Nat := fun s ↦ do
  let (n, rest) ← readNumber 9 s
  let places := s.length - rest.length
  return (n * Nat.pow 10 (9 - places), rest.dropWhile Char.isDigit)

/-- The second of the day, and the nanoseconds. The sixtieth second is a leap second. -/
def readTime : StampReader (Nat × Nat) := fun s ↦ do
  let (hour, s) ← readPart 0 23 s
  let (_, s) ← readSign ':' s
  let (minute, s) ← readPart 0 59 s
  let (_, s) ← readSign ':' s
  let (second, s) ← readPart 0 60 s
  let (nanos, s) ←
    match s with
    | '.' :: s => readFraction s
    | s => pure (0, s)
  let start := 3600 * hour + 60 * minute
  if second = 60 then return ((start + 59, nanos + billion), s)
  else return ((start + second, nanos), s)

def readPair : StampReader (Nat × Nat) := fun s ↦
  match s with
  | a :: b :: s =>
    if a.isDigit ∧ b.isDigit then .ok ((a.toNat - 48, b.toNat - 48), s) else .error .invalid
  | [a] => if 127 < a.toNat then .error .invalid else .error .tooShort
  | [] => .error .tooShort

/-- The offset from universal time, in seconds. -/
def readOffset : StampReader Int := fun s ↦
  match s with
  | [] => .error .tooShort
  | 'Z' :: s | 'z' :: s => .ok (0, s)
  | c :: rest =>
    if (s.take 3).map Char.toUpper = ['U', 'T', 'C'] then .ok (0, s.drop 3)
    else if c = '+' ∨ c = '-' ∨ c = '\u2212' then do
      let ((a, b), s) ← readPair rest
      let ((x, y), s) ← readPair (s.dropWhile fun c ↦ c = ':' || Text.isBlank c)
      if 6 ≤ x then throw .outOfRange
      let n : Int := 3600 * (10 * a + b) + 60 * (10 * x + y)
      return (if c = '+' then n else -n, s)
    else .error .invalid

def ofStamp (text : String) : Except StampError Instant := do
  let (date, s) ← readDate text.toList
  let s ←
    match s with
    | 'T' :: s | 't' :: s | ' ' :: s => pure s
    | _ :: _ => throw .invalid
    | [] => throw .tooShort
  let ((secondOfDay, nanos), s) ← readTime s
  let (offset, s) ← readOffset (Text.trimFront s)
  unless (Text.trimFront s).isEmpty do throw .tooLong
  unless date.isValid do throw .outOfRange
  unless offset.natAbs < 86400 do throw .outOfRange
  let a := ofDate date ((secondOfDay : Int) - offset) nanos
  if a.isValid then return a else throw .impossible

end Gatehouse.Instant
