import Gatehouse.Operation.Tolerances
import Gatehouse.Presented
import Gatehouse.Surroundings

namespace Gatehouse

structure Papers where
  authorization : List String := []
  cookies : List String := []
  deriving DecidableEq, Repr

inductive Complaint
  | candidate (index total : Nat) (error : StoreError)
  | header (problem : HeaderProblem)
  | cookie (name : String) (problem : SessionIdError)
  deriving DecidableEq, Repr

namespace Complaint

def message : Complaint → String
  | .candidate index total error => s!"session {index + 1} of {total}: {error.message}"
  | .header problem => s!"authorization header: {problem.message}"
  | .cookie name problem => "cookie " ++ Text.quoted name ++ ": " ++ problem.message

def summary (cs : List Complaint) : String :=
  s!"no valid session in presented credentials ({cs.length} problem(s)): " ++
    Text.joined "; " (cs.map message)

end Complaint

inductive Rejection
  | unauthenticated (complaints : List Complaint)
  | permissionDenied (operation : Operation) (username : String) (remaining : List String)
  deriving DecidableEq, Repr

def Rejection.message : Rejection → String
  | .unauthenticated complaints => "get user from session: " ++ Complaint.summary complaints
  | .permissionDenied operation _ remaining =>
    operation.path ++ ": " ++ Taints.complaint remaining

structure Guard where
  tolerances : Tolerances := .standard
  /-- Nobody knows an empty password. -/
  rootPassword : Option String := none
  cookieName : String := "portcullis-session"
  retry : RetryPolicy := {}

namespace Guard

def isRootValue (g : Guard) (value : String) : Bool :=
  match g.rootPassword with
  | some password => password != "" && value == "root " ++ password
  | none => false

def isRoot (g : Guard) (authorization : List String) : Bool := authorization.any g.isRootValue

def extract (g : Guard) (p : Papers) : Presented :=
  .extract g.cookieName p.authorization p.cookies

/-- Looks the session ids up in turn, until one names a live session. -/
def search (g : Guard) (total : Nat) : Nat → List SessionId → Deed (Except (List Complaint) Session)
  | _, [] => return .error []
  | i, id :: ids => do
    match ← Deed.read g.retry (Work.lookupSession id) with
    | .ok x => return .ok x
    | .error e =>
      let r ← search g total (i + 1) ids
      return r.mapError fun cs ↦ .candidate i total e.error :: cs

def unreadable (p : Presented) : List Complaint :=
  (p.unusedHeaders.map fun h ↦ .header h.reason) ++
    p.unusedCookies.filterMap fun c ↦ c.reason.map (.cookie c.cookie.name)

/-- The session of those who show these papers. Who shows nothing is anonymous; who shows something
must show a live session. -/
def authenticate (g : Guard) (p : Presented) : Deed (Except (List Complaint) Session) := do
  if p.offersCredentials then
    let r ← g.search p.sessions.length 0 p.sessions
    return r.mapError (· ++ unreadable p)
  else return .ok .anonymous

def resolve (g : Guard) (p : Papers) : Deed (Except (List Complaint) Session) := do
  if g.isRoot p.authorization then return .ok .root else g.authenticate (g.extract p)

def authorize (g : Guard) (o : Operation) (x : Session) : Except (List String) Unit :=
  g.tolerances.check o x.taints

def permit (g : Guard) (o : Operation) (p : Papers) : Deed (Except Rejection Session) := do
  match ← g.resolve p with
  | .error complaints => return .error (.unauthenticated complaints)
  | .ok x =>
    match g.authorize o x with
    | .error remaining => return .error (.permissionDenied o x.user.username remaining)
    | .ok () => return .ok x

/-- Ends a stored session. Ids that no stored session can have are passed over. -/
def revoke (g : Guard) (id : SessionId) (reason : String) : Deed (Except UnitError Unit) := do
  if id.isZero then return .ok ()
  else Deed.write g.retry (Work.revokeSession id reason)

end Guard

end Gatehouse
