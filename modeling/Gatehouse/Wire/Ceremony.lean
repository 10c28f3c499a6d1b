import Gatehouse.Credential
import Gatehouse.Wire.Identity

namespace Gatehouse

structure ClientData where
  kind : String
  challenge : String
  origin : String
  crossOrigin : Bool := false
  deriving DecidableEq, Repr

structure Descriptor where
  kind : String
  id : Octets
  deriving DecidableEq, Repr

def Descriptor.ofCredential (c : Credential) : Descriptor := ⟨"public-key", c.credentialId⟩

structure Attestation where
  clientData : Octets
  attestationObject : Octets
  deriving DecidableEq, Repr

structure Assertion where
  credentialId : Octets
  clientData : Octets
  authenticatorData : Octets
  signature : Octets
  deriving DecidableEq, Repr

structure LoginFinish where
  assertion : Assertion
  /-- The sealed place to go to afterwards; empty for none. -/
  redirectToken : String := ""
  deriving DecidableEq, Repr

structure EnrollmentFinish where
  name : String
  attestation : Attestation
  deriving DecidableEq, Repr

namespace Wire

open Json (Value Decoder Fields)

def readClientData : Decoder ClientData :=
  (((((Fields.required "type" Decoder.text).and
    (.required "challenge" Decoder.text)).and
    (.required "origin" Decoder.text)).and
    (.withDefault "crossOrigin" Decoder.bool false)).map
    fun (((kind, challenge), origin), crossOrigin) ↦
      ClientData.mk kind challenge origin crossOrigin).record "struct ClientData"

def descriptor (d : Descriptor) : Value := .object [("type", .text d.kind), ("id", octets d.id)]

def readDescriptor : Decoder Descriptor :=
  (((Fields.required "type" Decoder.text).and (.required "id" readOctets)).map
    fun (kind, id) ↦ Descriptor.mk kind id).record "struct CredentialDescriptor"

def attestation (a : Attestation) : Value := .object [
  ("client_data_json", octets a.clientData), ("attestation_object", octets a.attestationObject)]

def readAttestation : Decoder Attestation :=
  (((Fields.required "client_data_json" readOctets).and
    (.required "attestation_object" readOctets)).map
    fun (clientData, object) ↦ Attestation.mk clientData object).record
    "struct AttestationCredential"

def assertion (a : Assertion) : Value := .object [
  ("credential_id", octets a.credentialId),
  ("client_data_json", octets a.clientData),
  ("authenticator_data", octets a.authenticatorData),
  ("signature", octets a.signature)]

def readAssertion : Decoder Assertion :=
  (((((Fields.required "credential_id" readOctets).and
    (.required "client_data_json" readOctets)).and
    (.required "authenticator_data" readOctets)).and
    (.required "signature" readOctets)).map
    fun (((id, clientData), authenticatorData), signature) ↦
      Assertion.mk id clientData authenticatorData signature).record "struct AssertionCredential"

def loginStart (username : String) : Value := .object [("username", .text username)]

def readLoginStart : Decoder String :=
  (Fields.required "username" Decoder.text).record "struct StartLoginRequest"

def loginFinish (r : LoginFinish) : Value := .object [
  ("credential", assertion r.assertion), ("redirect_token", .text r.redirectToken)]

def readLoginFinish : Decoder LoginFinish :=
  (((Fields.required "credential" readAssertion).and
    (.withDefault "redirect_token" Decoder.text "")).map
    fun (a, token) ↦ LoginFinish.mk a token).record "struct FinishLoginRequest"

def enrollmentFinish (r : EnrollmentFinish) : Value := .object [
  ("name", .text r.name), ("credential", attestation r.attestation)]

def readEnrollmentFinish : Decoder EnrollmentFinish :=
  (((Fields.required "name" Decoder.text).and (.required "credential" readAttestation)).map
    fun (name, a) ↦ EnrollmentFinish.mk name a).record "struct FinishEnrollmentRequest"

def ceremonyDone (url : String) : Value := .object [("redirect_url", .text url)]

end Wire

end Gatehouse
