import Gatehouse.Octets
import Gatehouse.Decimal

namespace Gatehouse.Json

/-- A number. A whole one lies between `-2⁶³` and `2⁶⁴ - 1`; zero with a sign is a double. -/
inductive Number
  | whole (n : Int)
  | real (x : Float)
  deriving Repr

/-- A double has a point or an exponent: positional from `1e-5` up to below `1e16`. -/
def Number.ofReal (x : Float) : List Char :=
  let d := Decimal.ofFloat x
  let n : Int := d.digits.length
  let magnitude :=
    if d.digits = [] then ['0', '.', '0']
    else if -5 < d.point ∧ d.point ≤ 16 then
      if n ≤ d.point then d.plain ++ ['.', '0'] else d.plain
    else d.scientific
  if Decimal.isNegative x then '-' :: magnitude else magnitude

def Number.render : Number → String
  | .whole n => toString n
  | .real x => if x.isFinite then String.ofList (Number.ofReal x) else "null"

structure Numeral where
  negative : Bool
  front : List Nat
  back : List Nat
  exponent : Option (Bool × List Nat)

def maxWord : Nat := 18446744073709551615

/-- Appends digits to a number as long as it fits 64 bits; what does not fit is left. -/
def absorb : Nat → List Nat → Nat × List Nat
  | n, [] => (n, [])
  | n, d :: ds => if 10 * n + d ≤ maxWord then absorb (10 * n + d) ds else (n, d :: ds)

def tenTo (k : Nat) : Float := Float.ofScientific 1 false k

/-- The double for `x · 10 ^ e`, by a few roundings; none if it is too large. -/
def scaled : Nat → Float → Int → Option Float
  | 0, x, _ => some x
  | fuel + 1, x, e =>
    if e.natAbs ≤ 308 then
      if 0 ≤ e then
        let y := x * tenTo e.natAbs
        if y.isInf then none else some y
      else some (x / tenTo e.natAbs)
    else if x == 0 then some x
    else if 0 ≤ e then none
    else scaled fuel (x / tenTo 308) (e + 308)

def signed (negative : Bool) (x : Float) : Float := if negative then -x else x

def Numeral.value (significand : Nat) (e : Int) (negative : Bool) : Option Number :=
  (scaled (e.natAbs / 308 + 1) (Float.ofNat significand) e).map fun x ↦ .real (signed negative x)

def exponent? (ds : List Nat) : Option Nat :=
  ds.foldl (fun n d ↦ n.bind fun n ↦ if 10 * n + d ≤ 2147483647 then some (10 * n + d) else none)
    (some 0)

def clamp (e : Int) : Int := max (-2147483648) (min 2147483647 e)

def Numeral.number? (n : Numeral) : Option Number :=
  let (head, restFront) := absorb 0 n.front
  let before : Int := restFront.length
  if n.back = [] ∧ n.exponent = none then
    if restFront = [] then
      if !n.negative then some (.whole head)
      else if 1 ≤ head ∧ head ≤ 9223372036854775808 then some (.whole (-(head : Int)))
      else some (.real (-Float.ofNat head))
    else Numeral.value head before n.negative
  else
    let (significand, restBack) := absorb head n.back
    let start := before - (n.back.length - restBack.length : Nat)
    match n.exponent with
    | none => Numeral.value significand start n.negative
    | some (down, ds) =>
      match exponent? ds with
      | some e =>
        Numeral.value significand (clamp (if down then start - e else start + e)) n.negative
      | none =>
        if significand ≠ 0 ∧ !down then none else some (.real (signed n.negative 0))

end Gatehouse.Json
