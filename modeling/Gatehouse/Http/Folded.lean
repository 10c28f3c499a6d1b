import Gatehouse.Http.Message

namespace Gatehouse.Http

def separator (name : String) : String := if name = "cookie" then "; " else ","

/-- Puts the values of each header together, in their order. The names become lower case, and are
sorted. -/
def fold (fs : Fields) : Fields :=
  fs.foldl (fun folded (name, value) ↦
    let name := Text.lower name
    Text.alterSorted name (fun
      | some before => before ++ separator name ++ value
      | none => value) folded) []

def grouped (fs : Fields) : List (String × List String) :=
  fs.foldl (fun groups (name, value) ↦
    Text.alterSorted (Text.lower name) (fun
      | some values => values ++ [value]
      | none => [value]) groups) []

end Gatehouse.Http
