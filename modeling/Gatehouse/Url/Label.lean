import Gatehouse.Text.Normal
import Gatehouse.Url.LabelTable

namespace Gatehouse.Url

def nonJoiner : Nat := 0x200C

def joiner : Nat := 0x200D

def joinsNext (n : Nat) : Bool :=
  Text.inRanges joiningBoth n || Text.inRanges joiningNext n

def joinsBefore (n : Nat) : Bool :=
  Text.inRanges joiningBoth n || Text.inRanges joiningBefore n

def nextLetter? (s : List Nat) : Option Nat := s.find? fun n ↦ !Text.inRanges attachedSigns n

/-- Both joiners may stand behind a sign that takes the vowel from the letter before it. The one
that keeps letters apart may also stand between two that would join. What comes before is in
reverse. -/
def joinersStand (before : List Nat) : List Nat → Bool
  | [] => true
  | n :: s =>
    let isBehindSign := before.head?.any fun m ↦ Text.markClass m = 9
    let isBetween := (nextLetter? before).any joinsNext && (nextLetter? s).any joinsBefore
    (n ≠ nonJoiner || isBehindSign || isBetween) && (n ≠ joiner || isBehindSign) &&
      joinersStand (n :: before) s

inductive Direction where
  | rightward
  | leftward
  | arabicDigit
  | commonDigit
  | directionless
  | attached
  deriving Repr, DecidableEq

def Direction.of (n : Nat) : Direction :=
  if Text.inRanges leftwardLetters n then .leftward
  else if Text.inRanges arabicDigits n then .arabicDigit
  else if Text.inRanges commonDigits n then .commonDigit
  else if Text.inRanges attachedSigns n then .attached
  else if Text.inRanges directionlessSigns n then .directionless
  else .rightward

def Direction.turns (d : Direction) : Bool := d = .leftward || d = .arabicDigit

def lastDirection? (ds : List Direction) : Option Direction := ds.reverse.find? (· ≠ .attached)

/-- Whether a label may stand in a name of two directions: it starts with a letter, has no letter
of the other direction, and ends with a letter or a digit. Digits of two kinds do not meet. -/
def keepsDirection : List Direction → Bool
  | [] => true
  | .rightward :: ds =>
    ds.all (fun d ↦ !d.turns) &&
      (lastDirection? ds).all fun d ↦ d = .rightward || d = .commonDigit
  | .leftward :: ds =>
    ds.all (· ≠ .rightward) && !(ds.contains .arabicDigit && ds.contains .commonDigit) &&
      (lastDirection? ds).all fun d ↦ d.turns || d = .commonDigit
  | _ => false

def directionsAgree (labels : List (List Nat)) : Bool :=
  let ds := labels.map fun l ↦ l.map Direction.of
  !(ds.any fun l ↦ l.any Direction.turns) || ds.all keepsDirection

end Gatehouse.Url
