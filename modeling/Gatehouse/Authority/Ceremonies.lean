import Gatehouse.Authority

namespace Gatehouse.Authority

def existingCredentials (a : Authority) (user : User) : Call (List Credential) :=
  a.consult "lookup existing credentials" fun _ ↦ Work.listCredentials user

def startEnrollment (a : Authority) (x : Session) : Call (List Credential) :=
  if x.user.id.isAssigned then a.existingCredentials x.user
  else throw (.invalid "invalid user attempting enrollment")

def refuse (what : String) (e : CeremonyError) : Status :=
  ⟨.permissionDenied, s!"{what}: {e.message}"⟩

def checkAttestation (a : Authority) (v : Verifier) (x : Session) (t : Attestation) :
    Except CeremonyError Attested := do
  let _ ← validateClientData t.clientData .registration x.id a.links.origin
  v.attest a.links.host t

def finishEnrollment (a : Authority) (v : Verifier) (x : Session) (r : EnrollmentFinish) :
    Call (Option String) := do
  let attested ← ExceptT.mk (pure
    ((a.checkAttestation v x r.attestation).mapError (refuse "finish enrollment")))
  let now ← Deed.now
  let c : Credential := ⟨⟨0⟩, x.user, attested.credentialId, attested.publicKey, r.name,
    attested.aaguid, attested.signCount, now, x.id, none⟩
  let upgraded ← a.change "add credential and upgrade session" fun now ↦ do
    let _ ← Work.addCredential c
    Work.untaintSession x.id Taints.enrollment now
  a.installationLink upgraded ""

def startLogin (a : Authority) (username : String) (metadata : Metadata) :
    Call (Session × List Credential) := do
  let (user, credentials) ← a.consult "validate username" fun _ ↦ do
    let user ← Work.lookupUserByName username
    return (user, ← Work.listCredentials user)
  if credentials.isEmpty then
    throw ⟨.failedPrecondition,
      "begin login: user " ++ Text.quoted user.username ++ " has no enrolled credentials"⟩
  return (← a.mint .login user metadata, credentials)

/-- The session as a full one, if one of its user's credentials vouches for it. -/
def upgrade (a : Authority) (v : Verifier) (x : Session) (s : Assertion) : Call Session := do
  let refused {α : Type} (r : Except CeremonyError α) : Call α :=
    ExceptT.mk (pure (r.mapError (refuse "finish login")))
  let _ ← refused (validateClientData s.clientData .login x.id a.links.origin)
  let credentials ← a.existingCredentials x.user
  match credentials.find? fun c ↦ c.credentialId == s.credentialId with
  | none => refused (.error .unknownCredential)
  | some c =>
    let presented ← refused (v.vouch a.links.host c s)
    a.change "check counter and upgrade session" fun now ↦ do
      Work.checkSignCount { c with signCount := presented }
      Work.untaintSession x.id Taints.startLogin now

def returnPlace (a : Authority) (token : String) (now : Instant) : String :=
  match Token.openFresh Token.returns token a.key now with
  | .ok r => r.uri
  | .error _ => ""

/-- Ends a login, and gives the link that installs the session. A login that fails costs the
session. -/
def finishLogin (a : Authority) (v : Verifier) (x : Session) (r : LoginFinish) :
    Call (Option String) :=
  ExceptT.mk do
    match ← (a.upgrade v x r.assertion).run with
    | .error status =>
      let _ ← a.guard.revoke x.id "failed login"
      return .error status
    | .ok upgraded =>
      let place := a.returnPlace r.redirectToken (← Deed.now)
      (a.installationLink upgraded place).run

end Gatehouse.Authority
