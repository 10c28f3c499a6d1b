import Gatehouse.Proofs.Json.Records
import Gatehouse.Wire.Status
import Gatehouse.Wire.Visit

namespace Gatehouse.Wire

open Json (Value)
open Json.Decoder (Recovers recovers_text)
open Json.Fields (takes_single)

theorem recovers_texts (ss : List String) :
    (Json.Decoder.text.list).Recovers (.texts ss) ss :=
  .list fun s _ ↦ recovers_text s

theorem recovers_visitQuery (q : VisitQuery) : readVisitQuery.Recovers (visitQuery q) q :=
  (((((takes_single (recovers_text q.method)).field (recovers_text q.requestUri) (by decide)).field
    (recovers_texts q.authorization) (by decide)).field (recovers_texts q.cookies)
    (by decide)).field (recovers_text q.requestId) (by decide)).field
    (recovers_text q.sourceIp) (by decide) |>.map _ |>.record _

theorem recovers_headerField (h : HeaderField) : readHeaderField.Recovers (headerField h) h :=
  (takes_single (recovers_text h.key)).field (recovers_text h.value) (by decide)
    |>.map _ |>.record _

theorem recovers_destination (depth : Nat) (place : Destination) :
    (readDestination depth).Recovers (destination place) place := by
  cases place with
  | redirect url =>
    have hplace : readRedirect.Recovers (.object [("redirect_url", .text url)]) (.redirect url) :=
      (takes_single (recovers_text url)).map _ |>.record _
    exact Json.Variant.recovers rfl (by simp) (by simp [Value.isWithin_text]) hplace
  | response contentType body =>
    have hplace : readResponse.Recovers
        (.object [("content_type", .text contentType), ("body", .text body)])
        (.response contentType body) :=
      (takes_single (recovers_text contentType)).field (recovers_text body) (by decide)
        |>.map _ |>.record _
    exact Json.Variant.recovers rfl (by simp) (by simp [Value.isWithin_text]) hplace

theorem isWithin_destination (depth : Nat) (place : Destination) :
    (destination place).IsWithin (depth + 2) := by
  cases place <;> exact Value.isWithin_object (by simp [Value.isWithin_text])

theorem isWithin_headerField (depth : Nat) (h : HeaderField) :
    (headerField h).IsWithin (depth + 2) :=
  Value.isWithin_object (by simp [Value.isWithin_text])

/-- A decision nests no deeper than the header fields that it adds. -/
theorem recovers_decision (depth : Nat) (d : Decision) :
    (readDecision (depth + 3)).Recovers (decision d) d := by
  cases d with
  | allow username fields =>
    have hfields : (Json.Decoder.list readHeaderField).Recovers (.list (fields.map headerField))
        fields := .list fun h _ ↦ recovers_headerField h
    have hdecision : readAllow.Recovers (.object [("username", .text username),
        ("add_headers", .list (fields.map headerField))]) (.allow username fields) :=
      (takes_single (recovers_text username)).field hfields (by decide) |>.map _ |>.record _
    have hdepth : (Value.list (fields.map headerField)).IsWithin (depth + 3) := by
      refine Value.isWithin_list fun v hv ↦ ?_
      obtain ⟨h, -, rfl⟩ := List.mem_map.1 hv
      exact isWithin_headerField depth h
    exact Json.Variant.recovers rfl (by simp) (by simp [Value.isWithin_text, hdepth]) hdecision
  | deny reason place =>
    have hdecision : (readDeny (depth + 3)).Recovers (.object [("reason", .text reason),
        ("destination", destination place)]) (.deny reason place) :=
      (takes_single (recovers_text reason)).field (recovers_destination _ place) (by decide)
        |>.map _ |>.record _
    exact Json.Variant.recovers rfl (by simp)
      (by simp [Value.isWithin_text, isWithin_destination]) hdecision

theorem recovers_visitReply (d : Decision) : readVisitReply.Recovers (visitReply d) d :=
  (takes_single (recovers_decision 123 d)).record _

theorem recovers_code (c : Code) : readCode.Recovers (code c) c := by
  intro form
  cases c <;> rfl

theorem recovers_status (e : Status) : readStatus.Recovers (status e) e :=
  (takes_single (recovers_code e.code)).field (recovers_text e.message) (by decide)
    |>.map _ |>.record _

theorem isNumberless_visitQuery (q : VisitQuery) : (visitQuery q).isNumberless := by
  have htexts : ∀ ss, (Value.texts ss).isNumberless := Json.numberlessList_map fun _ ↦ rfl
  simp [visitQuery, Value.isNumberless, Json.numberlessMembers, htexts]

theorem isNumberless_destination (place : Destination) : (destination place).isNumberless := by
  cases place <;> rfl

theorem isNumberless_decision (d : Decision) : (decision d).isNumberless := by
  cases d with
  | allow username fields =>
    have hfields : Json.numberlessList (fields.map headerField) :=
      Json.numberlessList_map (fun _ ↦ rfl) fields
    simp [decision, Value.isNumberless, Json.numberlessMembers, hfields]
  | deny reason place =>
    simp [decision, Value.isNumberless, Json.numberlessMembers, isNumberless_destination]

theorem isNumberless_visitReply (d : Decision) : (visitReply d).isNumberless := by
  simp [visitReply, Value.isNumberless, Json.numberlessMembers, isNumberless_decision]

end Gatehouse.Wire
