namespace Gatehouse.Text

def hexNumber (s : List Char) : Nat :=
  s.foldl (fun n c ↦
    if '0' ≤ c ∧ c ≤ '9' then 16 * n + (c.toNat - 48)
    else if 'a' ≤ c ∧ c ≤ 'f' then 16 * n + (c.toNat - 87)
    else n) 0

def readRanges (lines : List String) : Array (Nat × Nat) :=
  (lines.flatMap fun line ↦ (line.splitOn " ").map fun w ↦
    match w.splitOn "-" with
    | [a, b] => (hexNumber a.toList, hexNumber b.toList)
    | _ => (hexNumber w.toList, hexNumber w.toList)).toArray

def inRanges (r : Array (Nat × Nat)) (n : Nat) : Bool := r.any fun (a, b) ↦ a ≤ n && n ≤ b

/-- What is assigned to the code points from `first` to `last`, every `step`-th of them. The first
one is assigned `target`; if that is a single number, the others are assigned numbers as far from
it as they are from the first. -/
structure Assignment where
  first : Nat
  last : Nat
  step : Nat
  target : List Nat
  deriving Repr

def Assignment.apply? (a : Assignment) (n : Nat) : Option (List Nat) :=
  if a.first ≤ n ∧ n ≤ a.last ∧ (n - a.first) % a.step = 0 then
    match a.target with
    | [t] => some [t + (n - a.first)]
    | ts => some ts
  else none

/-- Reads a word such as `41-5a=61`, `c0=41.300`, or `100-12e/101`, where the stroke stands for
every second code point. -/
def readAssignment (w : String) : Assignment :=
  let word (step : Nat) (range target : String) : Assignment :=
    let ts := (target.splitOn ".").map fun t ↦ hexNumber t.toList
    match range.splitOn "-" with
    | [a, b] => ⟨hexNumber a.toList, hexNumber b.toList, step, ts⟩
    | _ => ⟨hexNumber range.toList, hexNumber range.toList, step, ts⟩
  match w.splitOn "=", w.splitOn "/" with
  | [range, target], _ => word 1 range target
  | _, [range, target] => word 2 range target
  | _, _ => ⟨1, 0, 1, []⟩

def readAssignments (lines : List String) : Array Assignment :=
  (lines.flatMap fun line ↦ (line.splitOn " ").map readAssignment).toArray

def assigned? (table : Array Assignment) (n : Nat) : Option (List Nat) :=
  table.findSome? fun a ↦ a.apply? n

end Gatehouse.Text
