import Gatehouse.Http.Folded
import Gatehouse.Presented
import Gatehouse.Wire.Visit

namespace Gatehouse

structure Inquiry where
  method : String := ""
  scheme : String := ""
  host : String := ""
  path : String := ""
  headers : Http.Fields := []
  sourceIp : String := ""
  deriving DecidableEq, Repr

namespace Inquiry

def header (q : Inquiry) (name : String) : String := (Text.lookup? name q.headers).getD ""

def requestUri (q : Inquiry) : String :=
  (if q.scheme = "" then "http" else q.scheme) ++ "://" ++ q.host ++ q.path

def authorization (q : Inquiry) : List String :=
  ((Text.pieces ',' (q.header "authorization").toList).map
    fun v ↦ String.ofList (Text.trim v)).filter (· ≠ "")

def query (q : Inquiry) : VisitQuery where
  method := q.method
  requestUri := q.requestUri
  authorization := q.authorization
  cookies := (Cookie.parse (q.header "cookie")).map Cookie.text
  requestId := q.header "x-request-id"
  sourceIp := q.sourceIp

def stripPath (start path : String) : String :=
  match Text.after? start.toList path.toList with
  | some ('/' :: rest) => String.ofList ('/' :: rest)
  | some ('?' :: rest) => String.ofList ('/' :: '?' :: rest)
  | some [] => "/"
  | _ => path

/-- The request that the proxy repeats, with a path that it has put something in front of. -/
def ofRequest (r : Http.Request) (pathStart : String) : Inquiry :=
  let headers := Http.fold r.readable
  let get (name : String) : Option String := Text.lookup? name headers
  { method := r.method
    scheme := (get "x-forwarded-proto").getD ""
    host := (get "host").getD r.target.authority
    path := stripPath pathStart r.target.text
    headers
    sourceIp := (get "x-envoy-external-address").getD (r.peer.getD "") }

end Inquiry

end Gatehouse
