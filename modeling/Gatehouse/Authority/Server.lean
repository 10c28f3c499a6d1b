import Gatehouse.Authority.Ceremonies
import Gatehouse.Http.Form
import Gatehouse.Http.MediaType
import Gatehouse.Http.SetCookie
import Gatehouse.Wire.Options

namespace Gatehouse

open Json (Value Decoder)
open Http (Request Response)

def Http.Response.json (status : Nat) (v : Value) : Response :=
  ⟨status, [("content-type", "application/json")], v.compact⟩

def Status.response (s : Status) : Response := .json s.code.httpStatus (Wire.status s.shown)

def Papers.ofRequest (r : Request) : Papers := ⟨r.values "authorization", r.values "cookie"⟩

def Metadata.ofRequest (r : Request) : Metadata where
  userAgent := r.first "user-agent"
  ipAddress :=
    let noted := (r.first "x-forwarded-for").toList
    String.ofList (Text.trim (noted.takeWhile (· ≠ ',')))

namespace Authority

def readBody {β : Type} (r : Request) (d : Decoder β) : Except Response β :=
  if Http.isJson (r.first "content-type") then
    (d.run r.body).mapError fun f ↦
      match f.fault.category with
      | .data => .text 422
        ("Failed to deserialize the JSON body into the target type: " ++ f.message)
      | _ => .text 400 ("Failed to parse the request body as JSON: " ++ f.message)
  else .error (.text 415
    ("Expected request with " ++ Json.ticked "Content-Type: application/json"))

/-- Responds with what a call gives. A call that breaks off leaves the client without a response. -/
def respond (c : Call (Option Value)) : Deed (Option Response) := do
  match ← c.run with
  | .ok v => return v.map (.json 200)
  | .error s => return s.response

def respondTo {β : Type} (r : Request) (d : Decoder β) (f : β → Call (Option Value)) :
    Deed (Option Response) :=
  match readBody r d with
  | .ok b => respond (f b)
  | .error e => return e

def perform (a : Authority) (o : Operation) (x : Session) (r : Request) :
    Deed (Option Response) :=
  let metadata := Metadata.ofRequest r
  let site := a.links.host
  let withVerifier (what : String) (f : Verifier → Call (Option Value)) : Call (Option Value) :=
    match a.verifier with
    | some v => f v
    | none => throw ⟨.failedPrecondition, s!"{what} is not configured"⟩
  match o with
  | .healthCheck => return Response.json 200 Wire.healthy
  | .listOperations => return Response.json 200 (Wire.operations a.guard.tolerances a.serves)
  | .whoAmI => return Response.json 200 (Wire.whoAmI x)
  | .editUser => respondTo r Wire.readEditUser fun b ↦ do
    return Wire.editUser (.ofUser (← a.createUser b))
  | .generateEnrollmentLink => respondTo r Wire.readEnrollmentTarget fun b ↦ do
    let invited ← a.inviteUser b metadata
    return Wire.enrollmentLink invited.id.text (a.links.enrollmentPage invited.id.text)
  | .authorizeHttp => respondTo r Wire.readVisitQuery fun b ↦ do
    return (← a.judge b).map Wire.visitReply
  | .startEnrollment => respond do
    return Wire.enrollmentStarted site x (← a.startEnrollment x)
  | .finishEnrollment => respondTo r Wire.readEnrollmentFinish fun b ↦
      withVerifier "enrollment" fun v ↦ do
        return (← a.finishEnrollment v x b).map Wire.ceremonyDone
  | .startLogin => respondTo r Wire.readLoginStart fun b ↦ do
    let (started, credentials) ← a.startLogin b metadata
    return Wire.loginStarted site started credentials
  | .finishLogin => respondTo r Wire.readLoginFinish fun b ↦
      withVerifier "login" fun v ↦ do
        return (← a.finishLogin v x b).map Wire.ceremonyDone

/-- Responds to a request for an operation. Callers are judged before anything else, be it that
they call in a way that is not offered. -/
def call (a : Authority) (o : Operation) (r : Request) : Deed (Option Response) := do
  let offered := r.method = "POST"
  let response ←
    match ← a.guard.permit o (Papers.ofRequest r) with
    | .error rejection => pure (some (Status.ofRejection rejection).response)
    | .ok x => if offered then a.perform o x r else pure (some ⟨405, [], ""⟩)
  return if offered then response
    else response.map fun response ↦
      { response with headers := response.headers ++ [("allow", "POST")] }

def sessionCookie (a : Authority) (value : String) (expires : Instant) : Http.NewCookie :=
  ⟨a.cookie.name, value, a.cookie.domain, a.cookie.secure, expires⟩

def tokenOf (query : String) : Except Response String :=
  match (Http.readForm query).filter fun f ↦ f.1 = "set" with
  | [] => .ok ""
  | [(_, token)] => .ok token
  | _ => .error (.text 400
      ("Failed to deserialize query string: duplicate field " ++ Json.ticked "set"))

def setCookie (a : Authority) (query : String) (now : Instant) : Response :=
  match tokenOf query with
  | .error e => e
  | .ok token =>
    match Token.openFresh Token.installations token a.key now with
    | .error e => .text 400 s!"open set-cookie token: {e.message}"
    | .ok i =>
      if i.sessionId.isZero then .text 400 "token does not carry a session"
      else (a.sessionCookie i.sessionId.text i.expiresAt).addTo <|
        if i.redirectUrl = "" then ⟨200, [("content-type", "text/plain")], "ok"⟩
        else .redirect i.redirectUrl

def logout (a : Authority) (r : Request) : Deed Response := do
  for id in (a.guard.extract (Papers.ofRequest r)).sessions do
    let _ ← a.guard.revoke id "logout"
  return (a.sessionCookie "" .epoch).addTo (.redirect a.links.loginPage)

def page (r : Request) (response : Deed Response) : Deed (Option Response) :=
  if r.method = "GET" ∨ r.method = "HEAD" then some <$> response
  else return some ⟨405, [("allow", "GET,HEAD")], ""⟩

def route (a : Authority) (r : Request) : Deed (Option Response) :=
  match r.target.path with
  | "/set-cookie" => page r do return a.setCookie r.target.query (← Deed.now)
  | "/logout" => page r (a.logout r)
  | path =>
    match Operation.ofPath? path with
    | some o => if a.serves o then a.call o r else return some ⟨404, [], ""⟩
    | none => return some ⟨404, [], ""⟩

/-- Responds to a request, unless what is asked for breaks off. `HEAD` asks for no body. -/
def serve (a : Authority) (r : Request) : Deed (Option Response) := do
  let response ← a.route r
  return if r.method = "HEAD" then response.map .bodiless else response

end Authority

end Gatehouse
