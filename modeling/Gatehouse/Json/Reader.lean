import Gatehouse.Json.Node

namespace Gatehouse.Json

def isSpace (b : UInt8) : Bool := b = 32 || b = 10 || b = 9 || b = 13

def dropSpace (o : Octets) : Octets := o.dropWhile isSpace

def digit? (b : UInt8) : Option Nat :=
  if 48 ≤ b.toNat ∧ b.toNat ≤ 57 then some (b.toNat - 48) else none

def digits : Octets → List Nat × Octets
  | [] => ([], [])
  | b :: o =>
    match digit? b with
    | some d => let (ds, rest) := digits o; (d :: ds, rest)
    | none => ([], b :: o)

def someDigits (o : Octets) : Except Fault (List Nat × Octets) :=
  match digits o, o with
  | ([], _), [] => .error (.ended .value)
  | ([], _), _ => .error .invalidNumber
  | found, _ => .ok found

def readExponent : Octets → Except Fault (Option (Bool × List Nat) × Octets)
  | b :: o =>
    if b = 101 ∨ b = 69 then do
      let (down, o) := match o with
        | 43 :: o => (false, o)
        | 45 :: o => (true, o)
        | o => (false, o)
      let (ds, rest) ← someDigits o
      return (some (down, ds), rest)
    else .ok (none, b :: o)
  | [] => .ok (none, [])

def readFraction : Octets → Except Fault (List Nat × Octets)
  | 46 :: o => someDigits o
  | o => .ok ([], o)

/-- A numeral without its sign. The first digit is zero only if it is the only one before the
point. -/
def readNumeral (negative : Bool) (o : Octets) : Except Fault (Numeral × Octets) := do
  let (front, o) ← someDigits o
  if front.head? = some 0 ∧ 1 < front.length then throw .invalidNumber
  let (back, o) ← readFraction o
  let (exponent, o) ← readExponent o
  return (⟨negative, front, back, exponent⟩, o)

def hexQuad (a b c d : UInt8) : Option Nat := do
  let value (b : UInt8) := Octets.hexValue? (Char.ofNat b.toNat)
  return 4096 * (← value a) + 256 * (← value b) + 16 * (← value c) + (← value d)

def readQuad : Octets → Except Fault (Nat × Octets)
  | a :: b :: c :: d :: o =>
    match hexQuad a b c d with
    | some n => .ok (n, o)
    | none => .error .invalidEscape
  | _ => .error (.ended .text)

def simpleEscape (b : UInt8) : Option UInt8 :=
  if b = 34 ∨ b = 92 ∨ b = 47 then some b
  else if b = 98 then some 8
  else if b = 102 then some 12
  else if b = 110 then some 10
  else if b = 114 then some 13
  else if b = 116 then some 9
  else none

def isHighSurrogate (n : Nat) : Bool := 0xD800 ≤ n && n ≤ 0xDBFF

def isLowSurrogate (n : Nat) : Bool := 0xDC00 ≤ n && n ≤ 0xDFFF

def charOctets (n : Nat) : Octets := Octets.ofText (String.singleton (Char.ofNat n))

/-- The second half of a character that is written as two escapes. -/
def readLowHalf (high : Nat) : Octets → Except Fault (Octets × Octets)
  | [] => .error (.ended .text)
  | 92 :: [] => .error (.ended .text)
  | 92 :: 117 :: o => do
    let (low, o) ← readQuad o
    if isLowSurrogate low then
      return (charOctets (0x10000 + 1024 * (high - 0xD800) + (low - 0xDC00)), o)
    else throw .loneSurrogate
  | _ => .error .hexEscapeEnded

def readEscape : Octets → Except Fault (Octets × Octets)
  | [] => .error (.ended .text)
  | 117 :: o => do
    let (n, o) ← readQuad o
    if isLowSurrogate n then throw .loneSurrogate
    else if isHighSurrogate n then readLowHalf n o
    else return (charOctets n, o)
  | b :: o =>
    match simpleEscape b with
    | some c => .ok ([c], o)
    | none => .error .invalidEscape

def skipEscape : Octets → Except Fault Octets
  | [] => .error (.ended .text)
  | 117 :: o => (readQuad o).map Prod.snd
  | b :: o => if (simpleEscape b).isSome then .ok o else .error .invalidEscape

/-- The octets up to the closing quote, with the escapes resolved; `fuel` bounds their number. -/
def readText : Nat → Octets → Except Fault Octets
  | 0, _ | _ + 1, [] => .error (.ended .text)
  | fuel + 1, b :: o =>
    if b = 34 then .ok []
    else if b = 92 then do
      let (taken, rest) ← readEscape o
      return taken ++ (← readText fuel rest)
    else if b < 32 then .error .controlCharacter
    else (b :: ·) <$> readText fuel o

def skipText : Nat → Octets → Except Fault Octets
  | 0, _ | _ + 1, [] => .error (.ended .text)
  | fuel + 1, b :: o =>
    if b = 34 then .ok o
    else if b = 92 then do
      let rest ← skipEscape o
      skipText fuel rest
    else if b < 32 then .error .controlCharacter
    else skipText fuel o

def textOf (o : Octets) : Except Fault String := do
  let bytes ← readText o.length o
  match Octets.text? bytes with
  | some s => return s
  | none => throw .invalidUnicode

/-- A text behind its opening quote, and what follows it. If there is no closing quote, the two
faults for those who read it and those who pass over it. -/
def scanText (o : Octets) : Except (Fault × Fault) (Except Fault String × Octets) :=
  match skipText o.length o with
  | .ok rest => .ok (textOf o, rest)
  | .error onSkip =>
    match textOf o with
    | .ok _ => .error (onSkip, onSkip)
    | .error onRead => .error (onRead, onSkip)

def readWord (word : Octets) (n : Node) : Octets → Node × Option Octets
  | o =>
    match word, o with
    | [], o => (n, some o)
    | _ :: _, [] => (.broken (.ended .value) (.ended .value), none)
    | w :: ws, b :: o =>
      if w = b then readWord ws n o else (.broken .wordExpected .wordExpected, none)

def readNumber (negative : Bool) (o : Octets) : Node × Option Octets :=
  match readNumeral negative o with
  | .ok (n, rest) =>
    (.number (match n.number? with | some x => .ok x | none => .error .numberOutOfRange), some rest)
  | .error f => (.broken f .invalidNumber, none)

def readScalar (b : UInt8) (o : Octets) : Node × Option Octets :=
  if b = 34 then
    match scanText o with
    | .ok (s, rest) => (.text s, some rest)
    | .error (onRead, onSkip) => (.broken onRead onSkip, none)
  else if b = 110 then readWord [117, 108, 108] .null o
  else if b = 116 then readWord [114, 117, 101] (.bool true) o
  else if b = 102 then readWord [97, 108, 115, 101] (.bool false) o
  else if b = 45 then readNumber true o
  else if (digit? b).isSome then readNumber false (b :: o)
  else (.broken .valueExpected .valueExpected, none)

mutual

/-- A value, and what follows it if the text does not break within it. -/
def readNode : Nat → Octets → Node × Option Octets
  | 0, _ => (.absent, none)
  | fuel + 1, o =>
    match dropSpace o with
    | [] => (.absent, none)
    | b :: o =>
      if b = 91 then
        match dropSpace o with
        | [] =>
          (.list .text (.done (.broken (.ended .list) (.ended .list) (.ended .list))), none)
        | c :: o =>
          if c = 93 then (.list .text (.done .closed), some o)
          else
            let (items, rest) := readItems fuel (c :: o)
            (.list .text items, rest)
      else if b = 123 then
        match dropSpace o with
        | [] =>
          (.object .text (.done (.broken (.ended .object) (.ended .object) (.ended .value))), none)
        | c :: o =>
          if c = 125 then (.object .text (.done .closed), some o)
          else if c = 34 then
            let (members, rest) := readMembers fuel o
            (.object .text members, rest)
          else
            let (first, _) := readNode fuel (c :: o)
            (.object .text (.keyless first), none)
      else readScalar b o

def readItems : Nat → Octets → Items × Option Octets
  | 0, _ => (.done (.broken (.ended .list) (.ended .list) (.ended .list)), none)
  | fuel + 1, o =>
    match readNode fuel o with
    | (n, none) => (.more n (.done .closed), none)
    | (n, some o) =>
      match dropSpace o with
      | [] => (.more n (.done (.broken (.ended .list) (.ended .list) (.ended .list))), none)
      | b :: o =>
        if b = 93 then (.more n (.done .closed), some o)
        else if b = 44 then
          match dropSpace o with
          | [] =>
            (.more n (.done (.broken (.ended .value) (.ended .value) .trailingCharacters)), none)
          | c :: o =>
            if c = 93 then
              (.more n (.done (.broken .trailingComma .valueExpected .trailingComma)), none)
            else
              let (items, rest) := readItems fuel (c :: o)
              (.more n items, rest)
        else
          (.more n (.done (.broken .listCommaOrEndExpected .listCommaOrEndExpected
            .trailingCharacters)), none)

def readMembers : Nat → Octets → Members × Option Octets
  | 0, _ => (.done (.broken (.ended .object) (.ended .object) (.ended .value)), none)
  | fuel + 1, o =>
    match scanText o with
    | .error (onRead, onSkip) => (.done (.broken onRead onSkip onRead), none)
    | .ok (key, o) =>
      match dropSpace o with
      | [] => (.unpaired key (.ended .object), none)
      | b :: o =>
        if b = 58 then
          match readNode fuel o with
          | (n, none) => (.more key n (.done .closed), none)
          | (n, some o) =>
            match dropSpace o with
            | [] =>
              (.more key n (.done (.broken (.ended .object) (.ended .object) (.ended .object))),
                none)
            | b :: o =>
              if b = 125 then (.more key n (.done .closed), some o)
              else if b = 44 then
                match dropSpace o with
                | [] =>
                  (.more key n (.done (.broken (.ended .value) (.ended .object) .valueExpected)),
                    none)
                | c :: o =>
                  if c = 34 then
                    let (members, rest) := readMembers fuel o
                    (.more key n members, rest)
                  else if c = 125 then
                    (.more key n (.done (.broken .trailingComma .keyMustBeText .valueExpected)),
                      none)
                  else
                    (.more key n (.done (.broken .keyMustBeText .keyMustBeText .valueExpected)),
                      none)
              else
                (.more key n (.done (.broken .objectCommaOrEndExpected .objectCommaOrEndExpected
                  .valueExpected)), none)
        else (.unpaired key .colonExpected, none)

end

/-- Reads a whole text. Each level of the reading takes an octet for every two steps. -/
def Document.read (o : Octets) : Document :=
  match readNode (2 * o.length + 2) o with
  | (n, some rest) => ⟨n, !(dropSpace rest).isEmpty⟩
  | (n, none) => ⟨n, false⟩

def Value.read (o : Octets) : Except Fault Value := do
  let d := Document.read o
  let v ← d.root.value 128
  if d.trailing then throw .trailingCharacters
  return v

end Gatehouse.Json
