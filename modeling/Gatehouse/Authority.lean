import Gatehouse.Ceremony
import Gatehouse.Guard.Visit
import Gatehouse.Provisional
import Gatehouse.Wire.Account
import Gatehouse.Wire.Status

namespace Gatehouse

structure CookieSettings where
  name : String := "portcullis-session"
  domain : Option String := none
  secure : Bool := true
  deriving DecidableEq, Repr

structure Authority where
  guard : Guard
  key : TokenKey
  links : Links
  cookie : CookieSettings := {}
  /-- Without a verifier there are no ceremonies. -/
  verifier : Option Verifier := none

namespace StoreError

def code : StoreError → Code
  | .userNotFound | .sessionNotFound | .credentialNotFound => .notFound
  | .invalidSessionId | .invalidSession _ | .emptyField _ | .invalidCredential _ =>
    .invalidArgument
  | .sessionExpired | .sessionNotYetValid => .unauthenticated
  | .counterNotIncreased .. => .permissionDenied
  | .userExists _ => .failedPrecondition
  | e => if e.isRetryable then .unavailable else .internal

end StoreError

namespace Status

def invalid (message : String) : Status := ⟨.invalidArgument, message⟩

def ofStore (what : String) (e : UnitError) : Status := ⟨e.error.code, s!"{what}: {e.message}"⟩

def ofRejection (r : Rejection) : Status :=
  ⟨match r with
    | .unauthenticated _ => .unauthenticated
    | .permissionDenied .. => .permissionDenied, r.message⟩

def ofProvisional (e : ProvisionalError) : Status :=
  match e with
  | .syntheticUser _ => invalid e.message
  | .session _ => ⟨.internal, e.message⟩
  | .store u => ofStore "issue session" u

def ofToken (e : TokenError) : Status :=
  match e with
  | .notSealed => ⟨.internal, s!"seal token: {e.message}"⟩
  | e => invalid s!"token: {e.message}"

def shown (s : Status) : Status :=
  if s.code = .internal then { s with message := "internal error" } else s

end Status

/-- A call, which may fail with a status. What it has done until then stays done. -/
abbrev Call (α : Type) := ExceptT Status (StateM Surroundings) α

namespace Call

variable {α ε : Type}

def attempt (status : ε → Status) (d : Deed (Except ε α)) : Call α := ExceptT.mk do
  return (← d).mapError status

end Call

namespace Authority

variable {α : Type}

def consult (a : Authority) (what : String) (w : Instant → Work α) : Call α :=
  Call.attempt (Status.ofStore what) (Deed.read a.guard.retry w)

def change (a : Authority) (what : String) (w : Instant → Work α) : Call α :=
  Call.attempt (Status.ofStore what) (Deed.write a.guard.retry w)

def mint (a : Authority) (p : Purpose) (user : User) (metadata : Metadata) : Call Session :=
  Call.attempt Status.ofProvisional (p.mint a.guard.retry user metadata)

def installationLink (a : Authority) (x : Session) (redirectUrl : String) :
    Call (Option String) := do
  let now ← Deed.now
  let installation : Installation := ⟨x.id, x.expiresAt, redirectUrl⟩
  let token ← Call.attempt Status.ofToken
    (Deed.drawing (Token.make Token.installations installation a.key now))
  return token.map a.links.setCookie

def isCeremony : Operation → Bool
  | .startEnrollment | .finishEnrollment | .startLogin | .finishLogin => true
  | _ => false

def serves (a : Authority) (o : Operation) : Bool := a.verifier.isSome || !isCeremony o

def createUser (a : Authority) (r : Account) : Call User :=
  if r.id ≠ 0 then throw (.invalid "only new users (id 0) can be submitted")
  else a.change "update user" fun _ ↦ Work.createUser r.username

def inviteUser (a : Authority) (target : Account) (metadata : Metadata) : Call Session := do
  let user ← a.consult "lookup target user" fun _ ↦
    if target.id ≠ 0 then Work.lookupUser ⟨target.id⟩ else Work.lookupUserByName target.username
  a.mint .enrollment user metadata

def judge (a : Authority) (q : VisitQuery) : Call (Option Decision) :=
  Call.attempt (fun e ↦ .invalid (Guard.badUri e.message)) (a.guard.answer a.links a.key q)

end Authority

end Gatehouse
