import Gatehouse.Text.Pieces
import Gatehouse.Url.Domain
import Gatehouse.Url.Percent

namespace Gatehouse.Url

inductive Error
  | relative
  | emptyHost
  | invalidPort
  | invalidIpv4
  | invalidIpv6
  | invalidDomain
  | invalidDomainCharacter
  deriving DecidableEq, Repr

def Error.message : Error → String
  | .relative => "relative URL without a base"
  | .emptyHost => "empty host"
  | .invalidPort => "invalid port number"
  | .invalidIpv4 => "invalid IPv4 address"
  | .invalidIpv6 => "invalid IPv6 address"
  | .invalidDomain => "invalid international domain name"
  | .invalidDomainCharacter => "invalid domain character"

def numberIn? (base : Nat) (s : List Char) : Option Nat :=
  s.foldl (fun n c ↦ do
    let n ← n
    let d ← Octets.hexValue? c
    if d < base then some (base * n + d) else none) (some 0)

def addressPart? (s : List Char) : Option Nat :=
  match s with
  | [] => none
  | '0' :: 'x' :: rest | '0' :: 'X' :: rest => numberIn? 16 rest
  | '0' :: c :: rest => numberIn? 8 (c :: rest)
  | s => numberIn? 10 s

def addressPieces (s : List Char) : List (List Char) :=
  let ps := Text.pieces '.' s
  match ps.getLast? with
  | some [] => ps.dropLast
  | _ => ps

def endsInNumber (s : List Char) : Bool :=
  match (addressPieces s).getLast? with
  | some p => (!p.isEmpty && p.all Char.isDigit) || (addressPart? p).isSome
  | none => false

/-- The number of an address. All but the last part are single octets. -/
def ofParts : Nat → List Nat → Option Nat
  | _, [] => none
  | left, [n] => if n < Nat.pow 256 left then some n else none
  | left, n :: ns =>
    if n < 256 then (ofParts (left - 1) ns).map fun m ↦ n * Nat.pow 256 (left - 1) + m else none

def ipv4? (s : List Char) : Option Nat := do
  let ps := addressPieces s
  if 4 < ps.length then none
  else
    let ns ← ps.mapM addressPart?
    ofParts 4 ns

def ipv4Text (n : Nat) : String :=
  s!"{n / 16777216}.{n / 65536 % 256}.{n / 256 % 256}.{n % 256}"

def octetPart? (s : List Char) : Option Nat :=
  match s with
  | ['0'] => some 0
  | '0' :: _ | [] => none
  | s => do
    if 3 < s.length then none
    else
      let n ← numberIn? 10 s
      if n < 256 then some n else none

def embedded? (s : List Char) : Option (List Nat) := do
  match ← (Text.pieces '.' s).mapM octetPart? with
  | [a, b, c, d] => some [256 * a + b, 256 * c + d]
  | _ => none

def group? (s : List Char) : Option Nat :=
  if s.isEmpty || 4 < s.length then none else numberIn? 16 s

/-- The groups between colons; only the last ones may be written as octets. -/
def groups? : List (List Char) → Option (List Nat)
  | [] => some []
  | [p] => if p.contains '.' then embedded? p else (group? p).map fun g ↦ [g]
  | p :: ps => do
    let g ← group? p
    return g :: (← groups? ps)

def cutDouble : List Char → Option (List Char × List Char)
  | ':' :: ':' :: s => some ([], s)
  | c :: s => (cutDouble s).map fun (a, b) ↦ (c :: a, b)
  | [] => none

def groupsOf (s : List Char) : Option (List Nat) :=
  if s.isEmpty then some [] else groups? (Text.pieces ':' s)

/-- The eight groups of an address. A double colon stands for at least one group of zeros. -/
def ipv6? (s : List Char) : Option (List Nat) := do
  match cutDouble s with
  | none =>
    let gs ← groupsOf s
    if gs.length = 8 then some gs else none
  | some (front, back) =>
    if front.contains '.' then none
    else
      let gs ← groupsOf front
      let hs ← groupsOf back
      if gs.length + hs.length ≤ 7 then
        some (gs ++ List.replicate (8 - gs.length - hs.length) 0 ++ hs)
      else none

def zeroRun : List Nat → Nat
  | 0 :: gs => zeroRun gs + 1
  | _ => 0

/-- The place and length of the longest run of zeros, the first of several. -/
def longestRun : Nat → List Nat → Nat × Nat
  | _, [] => (0, 0)
  | i, g :: gs =>
    let run := zeroRun (g :: gs)
    let (j, best) := longestRun (i + 1) gs
    if best ≤ run then (i, run) else (j, best)

def groupsText (gs : List Nat) : String :=
  Text.joined ":" (gs.map fun g ↦ String.ofList (Nat.toDigits 16 g))

/-- The text of eight groups; the longest run of at least two zeros is left out. -/
def ipv6Text (gs : List Nat) : String :=
  let (i, run) := longestRun 0 gs
  if run < 2 then groupsText gs
  else groupsText (gs.take i) ++ "::" ++ groupsText (gs.drop (i + run))

def bracketed (s : String) : String := "[" ++ s ++ "]"

def bracketedHost (s : List Char) : Except Error String :=
  match s.reverse with
  | ']' :: inner =>
    match ipv6? inner.reverse with
    | some gs => .ok (bracketed (ipv6Text gs))
    | none => .error .invalidIpv6
  | _ => .error .invalidIpv6

def specialHost (s : List Char) : Except Error String := do
  match s with
  | '[' :: rest => bracketedHost rest
  | s =>
    let some text := (percentDecode (Octets.ofText (String.ofList s))).text?
      | throw .invalidDomain
    let some domain := asciiDomain text.toList | throw .invalidDomain
    if domain = "" then throw .emptyHost
    if endsInNumber domain.toList then
      match ipv4? domain.toList with
      | some n => return ipv4Text n
      | none => throw .invalidIpv4
    else return domain

def opaqueHost (s : List Char) : Except Error String :=
  match s with
  | '[' :: rest => bracketedHost rest
  | s =>
    if s.any fun c ↦
        ['\x00', '\t', '\n', '\r', ' ', '#', '/', ':', '<', '>', '?', '@', '[', '\\', ']', '^',
          '|'].contains c then
      .error .invalidDomainCharacter
    else .ok (String.ofList (percentEncode isControl s))

end Gatehouse.Url
