import Gatehouse.Instant.Stamp
import Gatehouse.Json.Decode
import Gatehouse.Session

namespace Gatehouse.Wire

open Json (Value Decoder Fields)

def stamp (a : Instant) : Value := .text a.stamp

def readStamp : Decoder Instant :=
  (Decoder.textFor "an RFC 3339 formatted date and time string").refine fun s ↦
    (Instant.ofStamp s).mapError Instant.StampError.message

/-- Octets are written in base64 without padding. Padding is put up with. -/
def octets (o : Octets) : Value := .text (Base64.encode .urlSafe o)

def readOctets : Decoder Octets :=
  Decoder.text.refine fun s ↦
    let stripped := String.ofList (s.toList.reverse.dropWhile (· = '=')).reverse
    (Base64.decode .urlSafe stripped).mapError Base64.Error.message

def userId (i : UserId) : Value := .whole i.number

def readUserId : Decoder UserId := Decoder.integer.map .mk

def credentialId (i : CredentialId) : Value := .whole i.number

def readCredentialId : Decoder CredentialId := Decoder.integer.map .mk

def user (u : User) : Value := .object [("id", userId u.id), ("username", .text u.username)]

def readUser : Decoder User :=
  (((Fields.required "id" readUserId).and (.required "username" Decoder.text)).map
    fun (id, username) ↦ User.mk id username).record "struct User"

def sessionId (i : SessionId) : Value := .text i.text

def readSessionId : Decoder SessionId :=
  Decoder.text.refine fun s ↦ (SessionId.ofText s).mapError SessionIdError.message

def taints (t : Taints) : Value := .texts t.names

def readTaints : Decoder Taints := (Decoder.list Decoder.text).map Taints.ofList

def metadata (m : Metadata) : Value := .object [
  ("user_agent", .text m.userAgent),
  ("ip_address", .text m.ipAddress),
  ("revocation_reason", .text m.revocationReason)]

def readMetadata : Decoder Metadata :=
  ((((Fields.withDefault "user_agent" Decoder.text "").and
    (.withDefault "ip_address" Decoder.text "")).and
    (.withDefault "revocation_reason" Decoder.text "")).map
    fun ((userAgent, ipAddress), reason) ↦ Metadata.mk userAgent ipAddress reason).record
    "struct SessionMetadata"

end Gatehouse.Wire
