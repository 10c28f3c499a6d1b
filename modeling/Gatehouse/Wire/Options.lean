import Gatehouse.Operation.Tolerances
import Gatehouse.Wire.Ceremony

namespace Gatehouse.Wire

open Json (Value)

def ceremonyTimeout : Nat := 60000

def algorithms : List Int := [-7, -35, -36, -257, -258, -259, -37, -38, -39, -8]

def descriptors (cs : List Credential) : Value :=
  .list (cs.map fun c ↦ descriptor (.ofCredential c))

/-- The number of a user as eight octets. -/
def userHandle (u : User) : Octets := Octets.ofNatBig 8 (u.id.number % 18446744073709551616).toNat

def creationOptions (site : String) (x : Session) (existing : List Credential) : Value := .object [
  ("challenge", sessionId x.id),
  ("rp", .object [("id", .text site), ("name", .text site)]),
  ("user", .object [
    ("id", octets (userHandle x.user)),
    ("name", .text x.user.username),
    ("displayName", .text x.user.username)]),
  ("pubKeyCredParams", .list (algorithms.map fun n ↦ .object [
    ("type", .text "public-key"), ("alg", .whole n)])),
  ("timeout", .natural ceremonyTimeout),
  ("excludeCredentials", descriptors existing),
  ("attestation", .text "none")]

def enrollmentStarted (site : String) (x : Session) (existing : List Credential) : Value :=
  .object [("options", creationOptions site x existing)]

def requestOptions (site : String) (x : Session) (allowed : List Credential) : Value := .object [
  ("challenge", sessionId x.id),
  ("rpId", .text site),
  ("timeout", .natural ceremonyTimeout),
  ("allowCredentials", descriptors allowed),
  ("userVerification", .text "discouraged")]

def loginStarted (site : String) (x : Session) (allowed : List Credential) : Value := .object [
  ("token", sessionId x.id), ("options", requestOptions site x allowed)]

def operations (t : Tolerances) (served : Operation → Bool) : Value := .object [
  ("operations", .list (Operation.all.map fun o ↦ .object [
    ("path", .text o.path),
    ("tolerated_taints", taints (t.of o)),
    ("served", .bool (served o))]))]

def healthy : Value := .object [("status", .text "ok")]

end Gatehouse.Wire
