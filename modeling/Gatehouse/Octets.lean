namespace Gatehouse

abbrev Octets := List UInt8

namespace Octets

def ofText (s : String) : Octets := s.toByteArray.data.toList

def text? (o : Octets) : Option String := String.fromUTF8? ⟨o.toArray⟩

theorem text?_ofText (s : String) : (ofText s).text? = some s := by
  have h : (⟨(ofText s).toArray⟩ : ByteArray) = s.toByteArray := by simp [ofText]
  rw [text?, h, String.fromUTF8?, dif_pos s.isValidUTF8]
  rfl

theorem ofText_injective {s t : String} (h : ofText s = ofText t) : s = t :=
  Option.some.inj <| by rw [← text?_ofText s, ← text?_ofText t, h]

def follows (low high : Nat) (b : UInt8) : Bool := low ≤ b.toNat && b.toNat ≤ high

/-- How many octets must follow a leading octet, and the bounds on the first of them. -/
def lead (b : UInt8) : Option (Nat × Nat × Nat) :=
  let n := b.toNat
  if n < 0x80 then some (0, 0, 0)
  else if n < 0xC2 then none
  else if n < 0xE0 then some (1, 0x80, 0xBF)
  else if n = 0xE0 then some (2, 0xA0, 0xBF)
  else if n = 0xED then some (2, 0x80, 0x9F)
  else if n < 0xF0 then some (2, 0x80, 0xBF)
  else if n = 0xF0 then some (3, 0x90, 0xBF)
  else if n < 0xF4 then some (3, 0x80, 0xBF)
  else if n = 0xF4 then some (3, 0x80, 0x8F)
  else none

/-- Takes the continuation octets that are there, at most as many as are owed; the flag tells
whether any is still owed. -/
def continuation : Nat → Nat → Nat → Octets → Octets × Octets × Bool
  | 0, _, _, o => ([], o, false)
  | _ + 1, _, _, [] => ([], [], true)
  | n + 1, low, high, b :: o =>
    if follows low high b then
      let (taken, rest, short) := continuation n 0x80 0xBF o
      (b :: taken, rest, short)
    else ([], b :: o, true)

/-- Replaces each longest ill-formed piece by U+FFFD; `fuel` bounds the number of pieces. -/
def lossyFrom : Nat → Octets → List Char
  | 0, _ => []
  | _ + 1, [] => []
  | fuel + 1, b :: o =>
    match lead b with
    | none => '\uFFFD' :: lossyFrom fuel o
    | some (n, low, high) =>
      let (taken, rest, short) := continuation n low high o
      if short then '\uFFFD' :: lossyFrom fuel rest
      else ((text? (b :: taken)).map String.toList).getD ['\uFFFD'] ++ lossyFrom fuel rest

/-- The text with every ill-formed piece replaced by U+FFFD. -/
def lossyText (o : Octets) : String := String.ofList (lossyFrom o.length o)

def hexDigit (n : Nat) : Char := Char.ofNat (if n < 10 then 48 + n else 87 + n)

def hexDigitUpper (n : Nat) : Char := Char.ofNat (if n < 10 then 48 + n else 55 + n)

def hexValue? (c : Char) : Option Nat :=
  let n := c.toNat
  if 48 ≤ n ∧ n ≤ 57 then some (n - 48)
  else if 97 ≤ n ∧ n ≤ 102 then some (n - 87)
  else if 65 ≤ n ∧ n ≤ 70 then some (n - 55)
  else none

def hex (o : Octets) : String :=
  String.ofList (o.flatMap fun b ↦ [hexDigit (b.toNat / 16), hexDigit (b.toNat % 16)])

def ofHexDigits? : List Char → Option Octets
  | [] => some []
  | [_] => none
  | a :: b :: rest => do
    let high ← hexValue? a
    let low ← hexValue? b
    let o ← ofHexDigits? rest
    return UInt8.ofNat (16 * high + low) :: o

def ofHex? (s : String) : Option Octets := ofHexDigits? s.toList

def toNatLittle : Octets → Nat
  | [] => 0
  | b :: o => b.toNat + 256 * toNatLittle o

def ofNatLittle : Nat → Nat → Octets
  | 0, _ => []
  | count + 1, n => UInt8.ofNat n :: ofNatLittle count (n / 256)

def ofNatBig (count n : Nat) : Octets := (ofNatLittle count n).reverse

theorem length_ofNatLittle (count n : Nat) : (ofNatLittle count n).length = count := by
  induction count generalizing n with
  | zero => rfl
  | succ count ih => simp [ofNatLittle, ih]

end Octets

end Gatehouse
