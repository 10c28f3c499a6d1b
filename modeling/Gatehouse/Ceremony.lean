import Gatehouse.Text.Quoted
import Gatehouse.Wire.Ceremony

namespace Gatehouse

inductive Ceremony
  | registration
  | login
  deriving DecidableEq, Repr

def Ceremony.kind : Ceremony → String
  | .registration => "webauthn.create"
  | .login => "webauthn.get"

inductive CeremonyError
  | clientData (reason : String)
  | wrongKind (expected found : String)
  | challengeMismatch
  | originMismatch (expected found : String)
  | crossOrigin
  | unknownCredential
  | verification (reason : String)
  deriving DecidableEq, Repr

def CeremonyError.message : CeremonyError → String
  | .clientData reason => s!"unmarshal client data json: {reason}"
  | .wrongKind expected found =>
    "client data type: got " ++ Text.quoted found ++ ", want " ++ Text.quoted expected
  | .challengeMismatch => "provided challenge does not match the current session"
  | .originMismatch expected found =>
    "credential from invalid origin: got " ++ Text.quoted found ++ ", want " ++ Text.quoted expected
  | .crossOrigin => "rejecting cross-origin credential"
  | .unknownCredential => "credential is not registered to this user"
  | .verification reason => s!"verify credential: {reason}"

/-- The first thing that is wrong with a statement: it must be about a ceremony of this kind, of the
session whose id is the challenge, at this site. -/
def ClientData.check (d : ClientData) (kind : String) (id : SessionId) (origin : String) :
    Except CeremonyError Unit :=
  if d.kind ≠ kind then .error (.wrongKind kind d.kind)
  else if d.challenge ≠ id.text then .error .challengeMismatch
  else if d.origin ≠ origin then .error (.originMismatch origin d.origin)
  else if d.crossOrigin then .error .crossOrigin
  else .ok ()

def ClientData.validate (json : Octets) (kind : String) (id : SessionId) (origin : String) :
    Except CeremonyError ClientData := do
  let d ← (Wire.readClientData.run json).mapError fun f ↦ .clientData f.fault.message
  d.check kind id origin
  return d

def validateClientData (json : Octets) (c : Ceremony) (id : SessionId) (origin : String) :
    Except CeremonyError ClientData :=
  ClientData.validate json c.kind id origin

structure Attested where
  credentialId : Octets
  publicKey : Octets
  aaguid : Octets
  signCount : Nat
  deriving DecidableEq, Repr

/-- Checks signatures, for a site of the given name. -/
structure Verifier where
  attest : (site : String) → Attestation → Except CeremonyError Attested
  /-- Gives the counter of the authenticator. -/
  vouch : (site : String) → Credential → Assertion → Except CeremonyError Nat

end Gatehouse
