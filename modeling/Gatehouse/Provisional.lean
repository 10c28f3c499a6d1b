import Gatehouse.Surroundings
import Gatehouse.Text.Quoted

namespace Gatehouse

inductive ProvisionalError
  | syntheticUser (username : String)
  | session (e : SessionIdError)
  | store (e : UnitError)
  deriving DecidableEq, Repr

def ProvisionalError.message : ProvisionalError → String
  | .syntheticUser username => "cannot issue a session to synthetic user " ++ Text.quoted username
  | .session e => s!"mint session: {e.message}"
  | .store e => s!"store session: {e.message}"

/-- What a provisional session is for: its taint, and how long it lasts. -/
structure Purpose where
  taint : String
  lifetime : Span
  deriving DecidableEq, Repr

namespace Purpose

def enrollment : Purpose := ⟨Taints.enrollment, Instant.hours 72⟩

def login : Purpose := ⟨Taints.startLogin, Instant.hours 18⟩

/-- Makes and stores a provisional session of a stored user. -/
def mint (p : Purpose) (retry : RetryPolicy) (user : User) (metadata : Metadata) :
    Deed (Except ProvisionalError Session) := do
  if user.id.isAssigned then
    let now ← Deed.now
    match ← Deed.drawing (Session.issue user p.lifetime (.ofList [p.taint]) metadata now) with
    | .error e => return .error (.session e)
    | .ok x =>
      match ← Deed.write retry fun _ ↦ Work.upsertSession x with
      | .error e => return .error (.store e)
      | .ok () => return .ok x
  else return .error (.syntheticUser user.username)

end Purpose

end Gatehouse
