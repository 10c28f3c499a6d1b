import Gatehouse.Http.Folded
import Gatehouse.Text.Quoted
import Gatehouse.Wire.Visit

namespace Gatehouse

inductive Verdict
  | pass (headers : Http.Fields) (removed : List String)
  | answer (status : Nat) (headers : Http.Fields) (body : String)
  deriving DecidableEq, Repr

namespace Verdict

def isPass : Verdict → Bool
  | .pass .. => true
  | .answer .. => false

def status : Verdict → Nat
  | .pass .. => 200
  | .answer status .. => status

def plain (status : Nat) (body : String) : Verdict :=
  .answer status [("content-type", "text/plain")] body

/-- The headers with which a visitor identifies; unless they are set anew they are removed. -/
def identifying : List String := ["cookie", "authorization"]

/-- Follows a decision of the authority. The user's name is told in the given header, if any. -/
def ofDecision (usernameHeader : Option String) : Decision → Verdict
  | .allow username addHeaders =>
    let groups := Http.grouped (addHeaders.map fun h ↦ (h.key, h.value))
    let added := groups.map fun (name, values) ↦ (name, Text.joined (Http.separator name) values)
    let told := match usernameHeader with
      | some name => if name = "" then [] else [(name, username)]
      | none => []
    .pass (added ++ told) (identifying.filter fun n ↦ !(groups.map Prod.fst).contains n)
  | .deny _ (.redirect url) =>
    .answer 307 [("content-type", "text/plain"), ("location", url)]
      ("Not authorized. Redirecting you to " ++ Text.quoted url)
  | .deny _ (.response contentType body) => .answer 403 [("content-type", contentType)] body

def removalHeader : String := "x-envoy-auth-headers-to-remove"

def sendable (fs : Http.Fields) : Http.Fields :=
  fs.filterMap fun (name, value) ↦ Http.field? name value

/-- The response to the proxy. Headers that cannot be sent are left out. -/
def response : Verdict → Http.Response
  | .pass headers [] => ⟨200, sendable headers, ""⟩
  | .pass headers removed =>
    ⟨200, (sendable headers).filter (fun f ↦ f.1 ≠ removalHeader) ++
      [(removalHeader, Text.joined "," removed)], ""⟩
  | .answer status headers body => ⟨status, sendable headers, body⟩

end Verdict

end Gatehouse
