import Gatehouse.Text.Pieces
import Gatehouse.Url.Percent

namespace Gatehouse.Http

/-- A piece of a form: a plus sign stands for a space, and percent encoding is resolved. -/
def formText (s : List Char) : String :=
  let spaced := s.map fun c ↦ if c = '+' then ' ' else c
  (Url.percentDecode (Octets.ofText (String.ofList spaced))).lossyText

def readForm (s : String) : List (String × String) :=
  ((Text.pieces '&' s.toList).filter (!·.isEmpty)).map fun p ↦
    match Text.cut '=' p with
    | some (name, value) => (formText name, formText value)
    | none => (formText p, "")

end Gatehouse.Http
