import Gatehouse.Json.Decode

namespace Gatehouse.Settings

open Json (Value Number Decoder here)

def splitSign : List Char → Bool × List Char
  | '-' :: s => (true, s)
  | '+' :: s => (false, s)
  | s => (false, s)

def areDigits (s : List Char) : Bool := !s.isEmpty && s.all Char.isDigit

def integer? (s : List Char) : Option Int :=
  let (negative, digits) := splitSign s
  if areDigits digits then
    let n : Int := Decimal.valueOf digits
    some (if negative then -n else n)
  else none

def whole? (s : List Char) : Option Int :=
  (integer? s).filter fun n ↦ -9223372036854775808 ≤ n ∧ n ≤ 9223372036854775807

def infinite : Float := 1 / 0

def undefined : Float := 0 / 0

def double (n : Nat) (e : Int) : Float :=
  let size : Int := (Nat.toDigits 10 n).length + e
  if n = 0 ∨ size < -400 then 0 else if 400 < size then infinite else Decimal.nearest n e

def exponent? : List Char → Option Int
  | [] => some 0
  | c :: s => if c = 'e' ∨ c = 'E' then integer? s else none

def magnitude? (s : List Char) : Option Float :=
  let word := s.map Char.toLower
  if word = "inf".toList ∨ word = "infinity".toList then some infinite
  else if word = "nan".toList then some undefined
  else
    let (front, s) := s.span Char.isDigit
    let (back, s) := match s with
      | '.' :: s => s.span Char.isDigit
      | s => ([], s)
    if front = [] ∧ back = [] then none
    else (exponent? s).map fun e ↦ double (Decimal.valueOf (front ++ back)) (e - back.length)

def real? (s : List Char) : Option Float :=
  let (negative, s) := splitSign s
  (magnitude? s).map fun x ↦ if negative then -x else x

/-- What the text of an environment variable is taken for. -/
def ofVariable (s : String) : Value :=
  let word := Text.lower s
  if word = "true" then .bool true
  else if word = "false" then .bool false
  else
    match whole? s.toList, real? s.toList with
    | some n, _ => .number (.whole n)
    | none, some x => .number (.real x)
    | none, none => .text s

/-- A number in full, without an exponent. -/
def written : Number → String
  | .whole n => toString n
  | .real x =>
    if x.isNaN then "NaN"
    else
      let magnitude := if x.isInf then "inf".toList else (Decimal.ofFloat x).plain
      String.ofList (if Decimal.isNegative x then '-' :: magnitude else magnitude)

def word? (s : String) : Option Bool :=
  let s := Text.lower s
  if ["1", "true", "on", "yes"].contains s then some true
  else if ["0", "false", "off", "no"].contains s then some false
  else none

structure Scalars where
  text : Decoder String
  flag : Decoder Bool
  natural : Nat → String → Decoder Nat

def Scalars.strict : Scalars := ⟨Decoder.text, Decoder.bool, Decoder.natural⟩

namespace Lenient

def text : Decoder String
  | .bool b => .ok (if b then "true" else "false")
  | .number n => here (n.map written)
  | n => Decoder.text n

def flag : Decoder Bool
  | .number n => here do
    match ← n with
    | .whole i => return i ≠ 0
    | .real x => return x != 0
  | .text s => here do
    match word? (← s) with
    | some b => return b
    | none => throw (.invalidType (.text (← s)) "a boolean")
  | n => Decoder.bool n

def rounded (x : Float) : Nat := x.round.toUInt64.toNat

def natural (bound : Nat) (name : String) : Decoder Nat
  | .bool b => .ok b.toNat
  | .number n => here do
    let i : Int := match ← n with
      | .whole i => i
      | .real x => rounded x
    if 0 ≤ i ∧ i.toNat < bound then return i.toNat
    else throw (.invalidValue (.number (.whole i)) name)
  | .text s => here do
    match word? (← s) with
    | some b => return b.toNat
    | none => throw (.invalidType (.text (← s)) name)
  | n => Decoder.natural bound name n

end Lenient

/-- Scalars are made into what is wanted, if there is a way. -/
def Scalars.lenient : Scalars := ⟨Lenient.text, Lenient.flag, Lenient.natural⟩

end Gatehouse.Settings
