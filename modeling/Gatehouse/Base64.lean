import Gatehouse.Octets

namespace Gatehouse.Base64

inductive Alphabet
  | standard
  | urlSafe
  deriving DecidableEq, Repr

inductive Error
  | symbol (octet : UInt8) (place : Nat)
  | lastSymbol (octet : UInt8) (place : Nat)
  | length (n : Nat)
  | padding
  deriving DecidableEq, Repr

def Error.message : Error → String
  | .symbol b place => s!"Invalid symbol {b.toNat}, offset {place}."
  | .lastSymbol b place => s!"Invalid last symbol {b.toNat}, offset {place}."
  | .length n => s!"Invalid input length: {n}"
  | .padding => "Invalid padding"

def pad : UInt8 := 61

def symbol (a : Alphabet) (n : Nat) : UInt8 :=
  if n < 26 then UInt8.ofNat (65 + n)
  else if n < 52 then UInt8.ofNat (71 + n)
  else if n < 62 then UInt8.ofNat (n - 4)
  else if n = 62 then match a with | .standard => 43 | .urlSafe => 45
  else match a with | .standard => 47 | .urlSafe => 95

def value? (a : Alphabet) (b : UInt8) : Option Nat :=
  let n := b.toNat
  if 65 ≤ n ∧ n ≤ 90 then some (n - 65)
  else if 97 ≤ n ∧ n ≤ 122 then some (n - 71)
  else if 48 ≤ n ∧ n ≤ 57 then some (n + 4)
  else match a with
    | .standard => if n = 43 then some 62 else if n = 47 then some 63 else none
    | .urlSafe => if n = 45 then some 62 else if n = 95 then some 63 else none

def symbols (a : Alphabet) : Octets → Octets
  | x :: y :: z :: rest =>
    let n := 65536 * x.toNat + 256 * y.toNat + z.toNat
    symbol a (n / 262144) :: symbol a (n / 4096 % 64) :: symbol a (n / 64 % 64) ::
      symbol a (n % 64) :: symbols a rest
  | [x, y] =>
    let n := 256 * x.toNat + y.toNat
    symbol a (n / 1024) :: symbol a (n / 16 % 64) :: symbol a (n % 16 * 4) ::
      match a with | .standard => [pad] | .urlSafe => []
  | [x] =>
    symbol a (x.toNat / 4) :: symbol a (x.toNat % 4 * 16) ::
      match a with | .standard => [pad, pad] | .urlSafe => []
  | [] => []

def encode (a : Alphabet) (o : Octets) : String :=
  String.ofList ((symbols a o).map fun b ↦ Char.ofNat b.toNat)

/-- The value of a symbol at a place, or the complaint about it. -/
def valueAt (a : Alphabet) (place : Nat) (b : UInt8) : Except Error Nat :=
  match value? a b with
  | some n => .ok n
  | none => .error (.symbol b place)

/-- What the last group holds: the values of its symbols, the last of the symbols, the place of
the first padding sign, and the number of padding signs. -/
structure Tail where
  values : List Nat := []
  last : UInt8 := 0
  padPlace : Nat := 0
  pads : Nat := 0

def readTail (a : Alphabet) (start : Nat) : Nat → Tail → Octets → Except Error Tail
  | _, t, [] => .ok t
  | index, t, b :: o =>
    if b = pad then
      if index < 2 then .error (.symbol b (start + index))
      else if t.pads = 0 then
        readTail a start (index + 1) { t with padPlace := start + index, pads := 1 } o
      else readTail a start (index + 1) { t with pads := t.pads + 1 } o
    else if t.pads > 0 then .error (.symbol pad t.padPlace)
    else do
      let n ← valueAt a (start + index) b
      readTail a start (index + 1) { t with values := t.values ++ [n], last := b } o

def padded (a : Alphabet) (t : Tail) : Bool :=
  match a with
  | .standard => (t.values.length + t.pads) % 4 = 0
  | .urlSafe => t.pads = 0

def decodeTail (a : Alphabet) (start : Nat) (o : Octets) : Except Error Octets := do
  let t ← readTail a start 0 {} o
  if t.values.length < 2 && !o.isEmpty then throw (.length (start + t.values.length))
  unless padded a t do throw .padding
  let spill := Error.lastSymbol t.last (start + t.values.length - 1)
  match t.values with
  | [p, q] => if q % 16 = 0 then return [UInt8.ofNat (p * 4 + q / 16)] else throw spill
  | [p, q, r] =>
    if r % 4 = 0 then
      return [UInt8.ofNat (p * 4 + q / 16), UInt8.ofNat (q % 16 * 16 + r / 4)]
    else throw spill
  | [p, q, r, s] =>
    return [UInt8.ofNat (p * 4 + q / 16), UInt8.ofNat (q % 16 * 16 + r / 4),
      UInt8.ofNat (r % 4 * 64 + s)]
  | _ => return []

/-- Decodes groups of four from `start` on; the last group, whole or not, is `decodeTail`'s. -/
def decodeFrom (a : Alphabet) : Nat → Octets → Except Error Octets
  | start, w :: x :: y :: z :: e :: rest => do
    let p ← valueAt a start w
    let q ← valueAt a (start + 1) x
    let r ← valueAt a (start + 2) y
    let s ← valueAt a (start + 3) z
    let o ← decodeFrom a (start + 4) (e :: rest)
    return UInt8.ofNat (p * 4 + q / 16) :: UInt8.ofNat (q % 16 * 16 + r / 4) ::
      UInt8.ofNat (r % 4 * 64 + s) :: o
  | start, o => decodeTail a start o

/-- Decodes symbols. A foreign octet that alone makes up the last group is the first complaint. -/
def decodeSymbols (a : Alphabet) (o : Octets) : Except Error Octets :=
  match o.getLast? with
  | some b =>
    if o.length % 4 = 1 ∧ b ≠ pad ∧ value? a b = none then .error (.symbol b (o.length - 1))
    else decodeFrom a 0 o
  | none => .ok []

def decode (a : Alphabet) (s : String) : Except Error Octets := decodeSymbols a (Octets.ofText s)

theorem value?_symbol (a : Alphabet) {n : Nat} (h : n < 64) : value? a (symbol a n) = some n := by
  have key : ∀ a, ∀ n : Fin 64, value? a (symbol a n) = some n.val := by
    intro a; cases a <;> decide
  exact key a ⟨n, h⟩

end Gatehouse.Base64
