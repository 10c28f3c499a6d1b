import Gatehouse.Text.NormalTable

namespace Gatehouse.Text

def markClass (n : Nat) : Nat :=
  (markClasses.findSome? fun a ↦
    if a.first ≤ n ∧ n ≤ a.last then a.target.head? else none).getD 0

def isMark (n : Nat) : Bool := inRanges marks n

def syllableParts? (n : Nat) : Option (List Nat) :=
  if 0xAC00 ≤ n ∧ n ≤ 0xD7A3 then
    let i := n - 0xAC00
    let front := [0x1100 + i / 588, 0x1161 + i % 588 / 28]
    some (if i % 28 = 0 then front else front ++ [0x11A7 + i % 28])
  else none

/-- The parts of a character; parts may have parts, at most `depth` times over. -/
def parts : Nat → Nat → List Nat
  | 0, n => [n]
  | depth + 1, n =>
    match syllableParts? n with
    | some ps => ps
    | none =>
      match assigned? decompositions n with
      | some ps => ps.flatMap (parts depth)
      | none => [n]

def decompose (s : List Nat) : List Nat := s.flatMap (parts 8)

def insertMark (n cls : Nat) : List Nat → List Nat
  | [] => [n]
  | m :: ms => if cls < markClass m then m :: insertMark n cls ms else n :: m :: ms

/-- Marks on one character in the order of their classes. -/
def ordered (s : List Nat) : List Nat :=
  (s.foldl (fun acc n ↦
    let cls := markClass n
    if cls = 0 then n :: acc else insertMark n cls acc) []).reverse

def composed? (a b : Nat) : Option Nat :=
  if 0x1100 ≤ a ∧ a ≤ 0x1112 ∧ 0x1161 ≤ b ∧ b ≤ 0x1175 then
    some (0xAC00 + (a - 0x1100) * 588 + (b - 0x1161) * 28)
  else if 0xAC00 ≤ a ∧ a ≤ 0xD7A3 ∧ (a - 0xAC00) % 28 = 0 ∧ 0x11A8 ≤ b ∧ b ≤ 0x11C2 then
    some (a + (b - 0x11A7))
  else
    decompositions.findSome? fun d ↦
      if d.target = [a, b] ∧ !inRanges excluded d.first then some d.first else none

/-- Puts characters together: `starter` is the last one that may take marks, `between` what stands
behind it, in reverse. -/
def composeFrom : Option Nat → List Nat → List Nat → List Nat
  | none, between, [] => between.reverse
  | some a, between, [] => a :: between.reverse
  | none, between, n :: s =>
    if markClass n = 0 then between.reverse ++ composeFrom (some n) [] s
    else composeFrom none (n :: between) s
  | some a, between, n :: s =>
    let cls := markClass n
    let blocked := match between with
      | [] => false
      | m :: _ => markClass m = 0 || cls ≤ markClass m
    match if blocked then none else composed? a n with
    | some c => composeFrom (some c) between s
    | none =>
      if cls = 0 then a :: (between.reverse ++ composeFrom (some n) [] s)
      else composeFrom (some a) (n :: between) s

def recompose (s : List Nat) : List Nat := composeFrom none [] (ordered s)

end Gatehouse.Text
