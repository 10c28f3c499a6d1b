import Gatehouse.Octets

namespace Gatehouse.Url

def percent (b : UInt8) : List Char :=
  ['%', Octets.hexDigitUpper (b.toNat / 16), Octets.hexDigitUpper (b.toNat % 16)]

def percentEncode (encoded : Char → Bool) (s : List Char) : List Char :=
  s.flatMap fun c ↦
    if encoded c then (Octets.ofText (String.singleton c)).flatMap percent else [c]

def hexOctet? (a b : UInt8) : Option UInt8 := do
  let high ← Octets.hexValue? (Char.ofNat a.toNat)
  let low ← Octets.hexValue? (Char.ofNat b.toNat)
  return UInt8.ofNat (16 * high + low)

/-- Resolves percent encoding. A percent sign without two digits behind it stands for itself. -/
def percentDecode : Octets → Octets
  | [] => []
  | b :: o =>
    if b = 37 then
      match o with
      | x :: y :: rest =>
        match hexOctet? x y with
        | some c => c :: percentDecode rest
        | none => b :: percentDecode (x :: y :: rest)
      | o => b :: percentDecode o
    else b :: percentDecode o

def isControl (c : Char) : Bool := c.toNat < 32 || 126 < c.toNat

def inQuery (c : Char) : Bool := isControl c || [' ', '"', '#', '<', '>'].contains c

def inSpecialQuery (c : Char) : Bool := inQuery c || c = '\''

def inFragment (c : Char) : Bool := isControl c || [' ', '"', '<', '>', '\x60'].contains c

def inPath (c : Char) : Bool := inFragment c || ['#', '?', '\x7b', '\x7d'].contains c

def inUserinfo (c : Char) : Bool :=
  inPath c || ['/', ':', ';', '=', '@', '[', '\\', ']', '^', '|'].contains c

end Gatehouse.Url
