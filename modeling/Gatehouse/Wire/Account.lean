import Gatehouse.Wire.Identity

namespace Gatehouse

/-- A user as callers name one: by number, or by name if the number is zero. -/
structure Account where
  id : Int := 0
  username : String := ""
  deriving DecidableEq, Repr, Inhabited

def Account.ofUser (u : User) : Account := ⟨u.id.number, u.username⟩

namespace Wire

open Json (Value Decoder Fields)

def account (a : Account) : Value :=
  .object [("id", .whole a.id), ("username", .text a.username)]

def readAccount : Decoder Account :=
  (((Fields.withDefault "id" Decoder.integer 0).and
    (.withDefault "username" Decoder.text "")).map
    fun (id, username) ↦ Account.mk id username).record "struct UserInfo"

def editUser (a : Account) : Value := .object [("user", account a)]

def readEditUser : Decoder Account :=
  (Fields.required "user" readAccount).record "struct EditUserRequest"

def enrollmentTarget (a : Account) : Value := .object [("target", account a)]

def readEnrollmentTarget : Decoder Account :=
  (Fields.required "target" readAccount).record "struct GenerateEnrollmentLinkRequest"

def enrollmentLink (token url : String) : Value :=
  .object [("token", .text token), ("url", .text url)]

def whoAmI (s : Session) : Value := .object [
  ("user", account (.ofUser s.user)), ("taints", taints s.taints),
  ("expires_at", stamp s.expiresAt)]

end Wire

end Gatehouse
