import Gatehouse.Json.Decode

namespace Gatehouse

/-- A request to a web site behind the proxy, as far as it matters. -/
structure VisitQuery where
  method : String := ""
  requestUri : String := ""
  authorization : List String := []
  cookies : List String := []
  requestId : String := ""
  sourceIp : String := ""
  deriving DecidableEq, Repr, Inhabited

structure HeaderField where
  key : String
  value : String
  deriving DecidableEq, Repr

/-- What becomes of a visitor who is turned away. -/
inductive Destination
  | redirect (url : String)
  | response (contentType body : String)
  deriving DecidableEq, Repr

inductive Decision
  | allow (username : String) (addHeaders : List HeaderField)
  | deny (reason : String) (destination : Destination)
  deriving DecidableEq, Repr

def Decision.isAllow : Decision → Bool
  | .allow .. => true
  | .deny .. => false

namespace Wire

open Json (Value Decoder Fields Variant)

def visitQuery (q : VisitQuery) : Value := .object [
  ("method", .text q.method),
  ("request_uri", .text q.requestUri),
  ("authorization_headers", .texts q.authorization),
  ("cookies", .texts q.cookies),
  ("request_id", .text q.requestId),
  ("source_ip", .text q.sourceIp)]

def readVisitQuery : Decoder VisitQuery :=
  (((((((Fields.required "method" Decoder.text).and
    (.required "request_uri" Decoder.text)).and
    (.withDefault "authorization_headers" (.list Decoder.text) [])).and
    (.withDefault "cookies" (.list Decoder.text) [])).and
    (.withDefault "request_id" Decoder.text "")).and
    (.withDefault "source_ip" Decoder.text "")).map
    fun (((((method, requestUri), authorization), cookies), requestId), sourceIp) ↦
      VisitQuery.mk method requestUri authorization cookies requestId sourceIp).record
    "struct AuthorizeHttpRequest"

def headerField (h : HeaderField) : Value :=
  .object [("key", .text h.key), ("value", .text h.value)]

def readHeaderField : Decoder HeaderField :=
  (((Fields.required "key" Decoder.text).and (.required "value" Decoder.text)).map
    fun (key, value) ↦ HeaderField.mk key value).record "struct Header"

def destination : Destination → Value
  | .redirect url => .object [("kind", .text "redirect"), ("redirect_url", .text url)]
  | .response contentType body => .object [
      ("kind", .text "response"), ("content_type", .text contentType), ("body", .text body)]

def readRedirect : Decoder Destination :=
  ((Fields.required "redirect_url" Decoder.text).map .redirect).record
    "struct variant DenyDestination::Redirect"

def readResponse : Decoder Destination :=
  (((Fields.required "content_type" Decoder.text).and (.required "body" Decoder.text)).map
    fun (contentType, body) ↦ .response contentType body).record
    "struct variant DenyDestination::Response"

def readDestination (depth : Nat) : Decoder Destination :=
  Variant.decoder "kind" "DenyDestination" [⟨"redirect", readRedirect⟩, ⟨"response", readResponse⟩]
    depth

def decision : Decision → Value
  | .allow username addHeaders => .object [
      ("outcome", .text "allow"), ("username", .text username),
      ("add_headers", .list (addHeaders.map headerField))]
  | .deny reason place => .object [
      ("outcome", .text "deny"), ("reason", .text reason), ("destination", destination place)]

def readAllow : Decoder Decision :=
  (((Fields.required "username" Decoder.text).and
    (.withDefault "add_headers" (.list readHeaderField) [])).map
    fun (username, addHeaders) ↦ .allow username addHeaders).record
    "struct variant Decision::Allow"

def readDeny (depth : Nat) : Decoder Decision :=
  (((Fields.required "reason" Decoder.text).and
    (.required "destination" (readDestination depth))).map
    fun (reason, place) ↦ .deny reason place).record
    "struct variant Decision::Deny"

def readDecision (depth : Nat) : Decoder Decision :=
  Variant.decoder "outcome" "Decision" [⟨"allow", readAllow⟩, ⟨"deny", readDeny depth⟩] depth

def visitReply (d : Decision) : Value := .object [("decision", decision d)]

def readVisitReply : Decoder Decision :=
  (Fields.required "decision" (readDecision 126)).record "struct AuthorizeHttpReply"

end Wire

end Gatehouse
