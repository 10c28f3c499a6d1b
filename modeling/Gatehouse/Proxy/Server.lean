import Gatehouse.Proxy.Check

namespace Gatehouse

structure Proxy where
  pathStart : String := ""
  usernameHeader : Option String := none
  timeout : Nat := 1000
  endsNow : Bool := false
  deriving DecidableEq, Repr

namespace Proxy

def limits (p : Proxy) : Limits :=
  ⟨if p.endsNow then some 0 else none, some p.timeout⟩

def respond (p : Proxy) (r : Http.Request) (c : Checked) : Http.Response :=
  let response := (Check.verdict p.usernameHeader c).response
  if r.method = "HEAD" then response.bodiless else response

def serveWithin (p : Proxy) (l : Limits) (r : Http.Request) (calls : Nat → Reception) :
    Option (Checked × Http.Response) :=
  (Check.run l calls).map fun c ↦ (c, p.respond r c)

/-- There always is a deadline, so that every check is over at some time. -/
def serve (p : Proxy) (r : Http.Request) (calls : Nat → Reception) :
    Option (Checked × Http.Response) := p.serveWithin p.limits r calls

def query (p : Proxy) (r : Http.Request) : VisitQuery := (Inquiry.ofRequest r p.pathStart).query

end Proxy

end Gatehouse
