import Gatehouse.Cipher.Sealed
import Gatehouse.Entropy
import Gatehouse.Token.Key
import Gatehouse.Wire.Identity

namespace Gatehouse

open Json (Value Decoder Fields)

structure PayloadKind (α : Type) where
  name : String
  maxAge : Span
  encode : α → Except String Value
  decode : Decoder α

structure Envelope where
  kind : String
  issuedAt : Instant
  message : Value

namespace Envelope

def value (e : Envelope) : Value := .object [
  ("kind", .text e.kind), ("issued_at", Wire.stamp e.issuedAt), ("message", e.message)]

def messageDepth : Nat := 127

def decoder : Decoder Envelope :=
  ((((Fields.required "kind" Decoder.text).and
    (.required "issued_at" Wire.readStamp)).and
    (.required "message" (Decoder.any messageDepth))).map
    fun ((kind, issuedAt), message) ↦ Envelope.mk kind issuedAt message).record "struct Envelope"

end Envelope

namespace Token

variable {α : Type}

def mark : String := "v1."

def nonceSize : Nat := 24

def frame (key : TokenKey) (nonce plain : Octets) : String :=
  mark ++ Base64.encode .urlSafe (nonce ++ Cipher.encrypt key.octets nonce plain)

/-- What is sealed for a payload at a time; members of objects stand in the order of their names. -/
def plaintext (kind : PayloadKind α) (payload : α) (issuedAt : Instant) : Except String Octets := do
  let message ← kind.encode payload
  return Octets.ofText (Envelope.value ⟨kind.name, issuedAt, message.sorted⟩).compact

/-- Seals a payload now, under a fresh nonce. Without a nonce there is no token, and no error that
could be told: whatever the token is for breaks off. -/
def make (kind : PayloadKind α) (payload : α) (key : TokenKey) (now : Instant) (e : Entropy) :
    Except TokenError (Option String) × Entropy :=
  match plaintext kind payload now with
  | .error reason => (.error (.payload reason), e)
  | .ok plain =>
    let (nonce, e) := e.draw nonceSize
    (.ok (nonce.map fun nonce ↦ frame key nonce plain), e)

/-- The plaintext of a token, if it is one and was sealed under this key. -/
def unframe (key : TokenKey) (token : String) : Except TokenError Octets := do
  let some body := Text.after? mark.toList token.toList
    | throw (.malformed "unknown token version")
  let sealedOctets ← (Base64.decode .urlSafe (String.ofList body)).mapError
    fun e ↦ .malformed e.message
  if sealedOctets.length < nonceSize + Cipher.tagLength then throw (.malformed "token too short")
  match Cipher.decrypt key.octets (sealedOctets.take nonceSize) (sealedOctets.drop nonceSize) with
  | some plain => return plain
  | none => throw .invalid

def contents (key : TokenKey) (token : String) : Except TokenError Envelope := do
  let plain ← unframe key token
  (Envelope.decoder.run plain).mapError fun f ↦ .malformed f.fault.message

/-- Opens a token for a payload of the given kind. It must be neither from the future nor older
than `maxAge`. -/
def openWithin (maxAge : Span) (kind : PayloadKind α) (token : String) (key : TokenKey)
    (now : Instant) : Except TokenError α := do
  if token = "" then throw .empty
  let envelope ← contents key token
  let age := now.since envelope.issuedAt
  if age < 0 then throw .tooNew
  if maxAge < age then throw .tooOld
  if envelope.kind ≠ kind.name then throw (.wrongKind kind.name envelope.kind)
  (kind.decode.ofValue envelope.message).mapError fun f ↦ .payload f.fault.message

def openFresh (kind : PayloadKind α) (token : String) (key : TokenKey) (now : Instant) :
    Except TokenError α := openWithin kind.maxAge kind token key now

end Token

end Gatehouse
