import Gatehouse.Guard
import Gatehouse.Links
import Gatehouse.Token.Payload
import Gatehouse.Wire.Visit

namespace Gatehouse

inductive Exclusion
  | tainted (remaining : List String)
  | notLoggedIn
  deriving DecidableEq, Repr

def Exclusion.message : Exclusion → String
  | .tainted remaining => Taints.complaint remaining
  | .notLoggedIn => "you must be logged in to visit this site"

/-- A visitor has no taints, and is root or somebody who is stored. -/
def Session.mayVisit (x : Session) : Except Exclusion Unit :=
  match x.taints.check .empty with
  | .error remaining => .error (.tainted remaining)
  | .ok () => if x.user.id.isAssigned || x.user.isRoot then .ok () else .error .notLoggedIn

def Presented.forwarded (p : Presented) : List HeaderField :=
  ((p.unusedHeaders.filter fun h ↦ h.reason.isForwardable).map
    fun h ↦ ⟨"authorization", h.value⟩) ++
  p.passthrough.map fun c ↦ ⟨"cookie", c.text⟩

def isNavigation (method : String) : Bool :=
  Text.lower method = "get" || Text.lower method = "head"

namespace Guard

def loginPage (links : Links) (key : TokenKey) (uri : Url) : Deed (Option String) := do
  let now ← Deed.now
  match ← Deed.drawing (Token.make Token.returns ⟨uri.text⟩ key now) with
  | .ok token => return token.map links.loginPageWith
  | .error _ => return links.loginPage

def elsewhere (method loginPage : String) : Destination :=
  if isNavigation method then .redirect loginPage
  else .response "text/plain" "You are not logged in."

def judge (g : Guard) (q : VisitQuery) (place : Destination) : Deed Decision := do
  let presented := g.extract ⟨q.authorization.filter (!g.isRootValue ·), q.cookies⟩
  let resolved ← if g.isRoot q.authorization then pure (.ok .root) else g.authenticate presented
  match resolved with
  | .error complaints => return .deny (Complaint.summary complaints) place
  | .ok x =>
    match x.mayVisit with
    | .error exclusion => return .deny exclusion.message place
    | .ok () => return .allow x.user.username presented.forwarded

/-- Answers the query of a proxy, if it names a URL. If nothing can be drawn there is no answer. -/
def answer (g : Guard) (links : Links) (key : TokenKey) (q : VisitQuery) :
    Deed (Except Url.Error (Option Decision)) := do
  match Url.ofText q.requestUri with
  | .error e => return .error e
  | .ok uri =>
    match ← loginPage links key uri with
    | some page => return .ok (some (← g.judge q (elsewhere q.method page)))
    | none => return .ok none

def badUri (reason : String) : String := s!"invalid request_uri: {reason}"

end Guard

end Gatehouse
