import Gatehouse.Settings.Scalar

namespace Gatehouse.Settings

open Json (Value)

def pointed : List Char → List Char
  | '_' :: '_' :: s => '.' :: pointed s
  | c :: s => c :: pointed s
  | [] => []

def inName (c : Char) : Bool := c.isAlphanum || c = '_' || c = '-'

def path (variableName : String) : List String :=
  let name := pointed (Text.lower variableName).toList
  let names := Text.pieces '.' name
  if names.all fun n ↦ !n.isEmpty && n.all inName then names.map String.ofList
  else [String.ofList name]

/-- Puts a value at the end of a path. A scalar that is in the way gives way. -/
def put (v : Value) : List String → List (String × Value) → List (String × Value)
  | [], ms => ms
  | [name], ms => Text.alterSorted name (fun _ ↦ v) ms
  | name :: more, ms =>
    Text.alterSorted name (fun
      | some (.object inner) => .object (put v more inner)
      | _ => .object (put v more [])) ms

def ofEnvironment (environment : List (String × String)) : Value :=
  .object (environment.foldl (fun ms (name, s) ↦ put (ofVariable s) (path name) ms) [])

end Gatehouse.Settings
