import Gatehouse.Octets
import Gatehouse.Text.Pieces
import Gatehouse.Url.DomainTable
import Gatehouse.Url.Label
import Gatehouse.Url.Punycode

namespace Gatehouse.Url

def isForbidden (c : Char) : Bool :=
  c.toNat ≤ 32 || c.toNat = 127 ||
    ['#', '%', '/', ':', '<', '>', '?', '@', '[', '\\', ']', '^', '|'].contains c

def wrappedMark : List Char := ['x', 'n', '-', '-']

def isAscii (c : Char) : Bool := c.toNat < 128

def mapPoint (n : Nat) : Option (List Nat) :=
  if Text.inRanges refusedCharacters n then none
  else if Text.inRanges droppedCharacters n then some []
  else some ((Text.assigned? replacements n).getD [n])

def normalName (s : List Nat) : Option (List Nat) := do
  let mapped ← (Text.decompose s).mapM mapPoint
  return Text.recompose (Text.decompose mapped.flatten)

/-- Whether a label may stand as it is: it is in normal form and does not start with a mark. -/
def isLabel (s : List Nat) : Bool :=
  (match s with | [] => false | n :: _ => !Text.isMark n) &&
    joinersStand [] s && normalName s == some s

structure Label where
  points : List Nat
  ascii : List Char
  deriving Repr

def Label.of? (s : List Nat) : Option Label :=
  let chars := s.map Char.ofNat
  match Text.after? wrappedMark chars with
  | some wrapped => do
    let inner ← ofPunycode? wrapped
    if inner.any (128 ≤ ·) && isLabel inner then some ⟨inner, chars⟩ else none
  | none =>
    if chars.all isAscii then some ⟨s, chars⟩
    else if isLabel s then some ⟨s, wrappedMark ++ toPunycode s⟩
    else none

def labels (s : List Nat) : List (List Nat) :=
  (Text.pieces '.' (s.map Char.ofNat)).map fun l ↦ l.map Char.toNat

/-- The ASCII form of a name. A name that is in ASCII, and has no label in the other way of
writing, only becomes lower case. -/
def asciiDomain (name : List Char) : Option String := do
  let lower := name.map Char.toLower
  let isPlain := name.all isAscii &&
    (Text.pieces '.' lower).all fun l ↦ (Text.after? wrappedMark l).isNone
  let result ←
    if isPlain then some lower
    else do
      let ls ← (labels (← normalName (name.map Char.toNat))).mapM Label.of?
      if directionsAgree (ls.map Label.points) then
        some (List.intercalate ['.'] (ls.map Label.ascii))
      else none
  if result.any isForbidden then none else some (String.ofList result)

end Gatehouse.Url
