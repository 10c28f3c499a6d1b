namespace Gatehouse

structure Decimal where
  digits : List Char
  point : Int
  deriving DecidableEq, Repr

namespace Decimal

/-- The number `mantissa · 2 ^ exponent`; it is narrow if the next smaller double is only half as
far away as the next larger one. -/
structure Binary where
  mantissa : Nat
  exponent : Int
  narrow : Bool
  deriving Repr

def hiddenBit : Nat := Nat.pow 2 52

def Binary.ofBits (bits : Nat) : Binary :=
  let e : Nat := bits / hiddenBit % 2048
  let f : Nat := bits % hiddenBit
  if e = 0 then ⟨f, -1074, false⟩ else ⟨f + hiddenBit, (e : Int) - 1075, f = 0 && decide (1 < e)⟩

def numerator (n : Nat) (two ten : Int) : Nat :=
  n * Nat.pow 2 two.toNat * Nat.pow 10 ten.toNat

def denominator (two ten : Int) : Nat := Nat.pow 2 (-two).toNat * Nat.pow 10 (-ten).toNat

/-- How many digits the number has before its point; zero or less if it starts with zeros there. -/
def Binary.scale (b : Binary) : Int :=
  let shifted := numerator (4 * b.mantissa) (b.exponent - 2) 400 / denominator (b.exponent - 2) 400
  (Nat.toDigits 10 shifted).length - 400

/-- The multiple of `10 ^ ten` nearest to the number, as the factor, if it reads back. -/
def Binary.onGrid (b : Binary) (ten : Int) : Option Nat :=
  let two := b.exponent - 2
  let den := denominator two (-ten)
  let exact := numerator (4 * b.mantissa) two (-ten)
  let low := numerator (4 * b.mantissa - if b.narrow then 1 else 2) two (-ten)
  let high := numerator (4 * b.mantissa + 2) two (-ten)
  let readsBack (d : Nat) : Bool :=
    if b.mantissa % 2 = 0 then low ≤ d * den && d * den ≤ high
    else decide (low < d * den) && decide (d * den < high)
  let below := exact / den
  let above := below + 1
  match readsBack below, readsBack above with
  | false, false => none
  | true, false => some below
  | false, true => some above
  | true, true =>
    let down := exact - below * den
    let up := above * den - exact
    some <| if down < up then below else if up < down then above
      else if below % 2 = 0 then below else above

def stripZeros (s : List Char) : List Char := (s.reverse.dropWhile (· = '0')).reverse

def ofBinary (b : Binary) : Decimal :=
  let k := b.scale
  let grids := (List.range 17).map fun (n : Nat) ↦ k - ((n : Int) + 1)
  match grids.findSome? fun ten ↦ (b.onGrid ten).map fun d ↦ (Nat.toDigits 10 d, ten) with
  | some (ds, ten) => ⟨stripZeros ds, ds.length + ten⟩
  | none => ⟨[], 0⟩

/-- The shortest numeral of a finite double, without its sign; zero has no digits. -/
def ofFloat (x : Float) : Decimal :=
  let b := Binary.ofBits (x.toBits.toNat % Nat.pow 2 63)
  if b.mantissa = 0 then ⟨[], 0⟩ else ofBinary b

def isNegative (x : Float) : Bool := Nat.pow 2 63 ≤ x.toBits.toNat

def zeros (n : Int) : List Char := List.replicate n.toNat '0'

def plain (d : Decimal) : List Char :=
  let n := d.digits.length
  if d.digits = [] then ['0']
  else if d.point ≤ 0 then '0' :: '.' :: zeros (-d.point) ++ d.digits
  else if n ≤ d.point.toNat then d.digits ++ zeros (d.point - n)
  else d.digits.take d.point.toNat ++ '.' :: d.digits.drop d.point.toNat

def scientific (d : Decimal) : List Char :=
  let e := (if 1 ≤ d.point then ['+'] else []) ++ (toString (d.point - 1)).toList
  match d.digits with
  | [] => ['0']
  | [c] => c :: 'e' :: e
  | c :: cs => c :: '.' :: cs ++ 'e' :: e

def valueOf (s : List Char) : Nat :=
  s.foldl (fun n c ↦ if c.isDigit then 10 * n + (c.toNat - 48) else n) 0

/-- The double nearest to `n · 10 ^ e`. -/
def nearest (n : Nat) (e : Int) : Float :=
  if e < 0 then Float.ofScientific n true (-e).toNat else Float.ofScientific n false e.toNat

end Decimal

end Gatehouse
