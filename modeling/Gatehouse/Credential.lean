import Gatehouse.Session

namespace Gatehouse

/-- A registered key. Only its counter changes after the registration. -/
structure Credential where
  id : CredentialId
  user : User
  credentialId : Octets
  publicKey : Octets
  name : String
  aaguid : Octets
  signCount : Nat
  createdAt : Instant
  createdBy : SessionId
  deletedAt : Option Instant
  deriving DecidableEq, Repr, Inhabited

end Gatehouse
