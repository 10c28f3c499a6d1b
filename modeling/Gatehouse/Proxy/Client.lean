import Gatehouse.Links
import Gatehouse.Wire.Status
import Gatehouse.Wire.Visit

namespace Gatehouse

inductive CallError
  | transport (reason : String)
  | status (httpStatus : Nat) (s : Status)
  | decode (reason : String)
  deriving DecidableEq, Repr

def CallError.message : CallError → String
  | .transport reason => s!"transport: {reason}"
  | .status httpStatus s => s!"HTTP {httpStatus}: {s.describe}"
  | .decode reason => s!"decode reply: {reason}"

namespace Client

def steps : List String := ["rpc", "Session", "AuthorizeHTTP"]

def endpoint (serverUrl : String) : Except BaseError Url := do
  let base ← Url.ofWebServer serverUrl
  let path := match base.path with
    | .rooted ss => .rooted (ss.dropLast ++ steps)
    | p => p
  return { base with path }

def userAgent : String := "portcullis-envoy-authz/0.1.0"

def requestLine (endpoint : Url) : String := s!"POST {endpoint.path.text} HTTP/1.1"

def isBodiless (status : Nat) : Bool := status = 204 || status = 304

/-- What a response says. A failure that does not tell its status is an internal one. -/
def read (status : Nat) (body : Octets) : Except CallError Decision :=
  let body : Octets := if isBodiless status then [] else body
  if 200 ≤ status ∧ status < 300 then
    (Wire.readVisitReply.run body).mapError fun f ↦ .decode f.fault.message
  else
    match Wire.readStatus.run body with
    | .ok s => .error (.status status s)
    | .error _ => .error (.status status ⟨.internal, Octets.lossyText body⟩)

end Client

end Gatehouse
