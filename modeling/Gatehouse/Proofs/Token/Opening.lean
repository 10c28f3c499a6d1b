import Gatehouse.Proofs.Cipher.Sealing
import Gatehouse.Proofs.Except
import Gatehouse.Proofs.Instant.Stamps
import Gatehouse.Proofs.Json.Reading
import Gatehouse.Proofs.Session.Ids
import Gatehouse.Token.Payload

namespace Gatehouse

open Json (Value Node Form)

namespace Token

variable {α β : Type} {kind : PayloadKind α} {other : PayloadKind β} {payload : α} {key : TokenKey}
  {now later : Instant} {e : Entropy} {nonce plain : Octets} {token : String} {v : Value}
  {limit : Span}

theorem after?_mark (body : String) :
    Text.after? mark.toList (mark ++ body).toList = some body.toList := by
  rw [Text.after?_eq_some, String.toList_append]

theorem unframe_of_closed {closed : Octets} (h : nonce.length = nonceSize)
    (hc : Cipher.tagLength ≤ closed.length) :
    unframe key (mark ++ Base64.encode .urlSafe (nonce ++ closed)) =
      match Cipher.decrypt key.octets nonce closed with
      | some plain => .ok plain
      | none => .error .invalid := by
  have hlength : ¬(nonce ++ closed).length < nonceSize + Cipher.tagLength := by
    rw [List.length_append]
    omega
  have htake : (nonce ++ closed).take nonceSize = nonce := by
    rw [← h]
    exact List.take_left
  have hdrop : (nonce ++ closed).drop nonceSize = closed := by
    rw [← h]
    exact List.drop_left
  rw [unframe, after?_mark]
  simp only [String.ofList_toList, Base64.decode_encode, mapError_ok, bind, Except.bind,
    hlength, htake, hdrop, if_false]
  rfl

theorem unframe_frame (key : TokenKey) (plain : Octets) (h : nonce.length = nonceSize) :
    unframe key (frame key nonce plain) = .ok plain := by
  have hc : Cipher.tagLength ≤ (Cipher.encrypt key.octets nonce plain).length := by
    rw [Cipher.length_encrypt]
    omega
  rw [frame, unframe_of_closed h hc, Cipher.decrypt_encrypt]

theorem readStamp_stamp (h : now.IsProper) :
    Wire.readStamp (.text (.ok now.stamp)) = .ok now := by
  simp [Wire.readStamp, Json.Decoder.refine, Json.Decoder.textFor, Json.here, bind, Except.bind,
    Instant.ofStamp_stamp h]

structure IsMessage (v : Value) : Prop where
  numberless : v.isNumberless
  shallow : (Node.ofValue .text v).value Envelope.messageDepth = .ok v

theorem run_envelope (hm : IsMessage v) (hnow : now.IsProper) (name : String) :
    Envelope.decoder.run (Octets.ofText (Envelope.value ⟨name, now, v⟩).compact) =
      .ok ⟨name, now, v⟩ := by
  have hn : (Envelope.value ⟨name, now, v⟩).isNumberless := by
    simp [Envelope.value, Value.isNumberless, Json.numberlessMembers, Wire.stamp, hm.numberless]
  have hstamp := readStamp_stamp hnow
  have hany : Json.Decoder.any Envelope.messageDepth (Node.ofValue .text v) = .ok v := by
    rw [Json.Decoder.any, hm.shallow]
    rfl
  rw [Json.run_compact _ hn]
  simp [Envelope.decoder, Envelope.value, Wire.stamp, Json.Node.ofValue, Json.Members.ofValues,
    Json.Fields.record, Json.Fields.map, Json.Fields.and, Json.Fields.required, Json.Fields.single,
    Json.Fields.ofMembers, Json.Fields.number?, Json.here, Json.under, bind,
    Except.bind, pure, Except.pure, Functor.map, Except.map, hstamp, hany, Json.Decoder.text,
    Json.Decoder.textFor, List.idxOf?_cons]

theorem frame_ne_empty (key : TokenKey) (nonce plain : Octets) : frame key nonce plain ≠ "" := by
  intro h
  have := congrArg String.toList h
  simp [frame, mark] at this

theorem contents_frame (hm : IsMessage v) (hnow : now.IsProper) (name : String)
    (h : nonce.length = nonceSize) :
    contents key (frame key nonce (Octets.ofText (Envelope.value ⟨name, now, v⟩).compact)) =
      .ok ⟨name, now, v⟩ := by
  rw [contents, unframe_frame _ _ h]
  simp [run_envelope hm hnow, bind, Except.bind]

theorem plaintext_of_encode (hv : kind.encode payload = .ok v) :
    plaintext kind payload now =
      .ok (Octets.ofText (Envelope.value ⟨kind.name, now, v.sorted⟩).compact) := by
  rw [plaintext, hv]
  rfl

theorem make_of_plaintext (h : plaintext kind payload now = .ok plain) :
    (make kind payload key now e).1 =
      .ok ((e.draw nonceSize).1.map fun nonce ↦ frame key nonce plain) := by
  rw [make, h]

theorem frame_of_make (h : (make kind payload key now e).1 = .ok (some token)) :
    ∃ nonce plain, plaintext kind payload now = .ok plain ∧ nonce.length = nonceSize ∧
      token = frame key nonce plain := by
  cases hp : plaintext kind payload now with
  | error reason =>
    rw [make, hp] at h
    cases h
  | ok plain =>
    rw [make_of_plaintext hp, Except.ok.injEq, Option.map_eq_some_iff] at h
    obtain ⟨nonce, hn, rfl⟩ := h
    exact ⟨nonce, plain, rfl, Entropy.length_of_draw hn, rfl⟩

/-- What a token comes to that was sealed for this message, when it is opened later. -/
def opened (limit : Span) (kind : PayloadKind β) (name : String) (v : Value) (age : Span) :
    Except TokenError β :=
  if age < 0 then .error .tooNew
  else if limit < age then .error .tooOld
  else if name ≠ kind.name then .error (.wrongKind kind.name name)
  else (kind.decode.ofValue v).mapError fun f ↦ .payload f.fault.message

theorem openWithin_frame (hm : IsMessage v) (hnow : now.IsProper) (name : String)
    (h : nonce.length = nonceSize) :
    openWithin limit other
        (frame key nonce (Octets.ofText (Envelope.value ⟨name, now, v⟩).compact)) key later =
      opened limit other name v (later.since now) := by
  rw [openWithin, contents_frame hm hnow name h, opened]
  simp only [frame_ne_empty, if_false, bind, Except.bind]
  split
  · rfl
  · split
    · rfl
    · split
      · rfl
      · rfl

/-- However a token was made: how it opens depends on the payload and the times alone. -/
theorem openWithin_make (h : (make kind payload key now e).1 = .ok (some token))
    (hv : kind.encode payload = .ok v) (hm : IsMessage v.sorted) (hnow : now.IsProper) :
    openWithin limit other token key later =
      opened limit other kind.name v.sorted (later.since now) := by
  obtain ⟨nonce, plain, hp, hn, rfl⟩ := frame_of_make h
  rw [plaintext_of_encode hv] at hp
  cases hp
  exact openWithin_frame hm hnow kind.name hn

theorem isMessage_return (r : Return) : IsMessage (Wire.returnTo r).sorted :=
  ⟨rfl, rfl⟩

theorem decode_return (r : Return) :
    returns.decode.ofValue (Wire.returnTo r).sorted = .ok r := rfl

theorem isMessage_installation (i : Installation) : IsMessage (Wire.installation i).sorted :=
  ⟨rfl, rfl⟩

theorem decode_installation {i : Installation} (hid : i.sessionId.octets.length = SessionId.size)
    (hend : i.expiresAt.IsProper) :
    installations.decode.ofValue (Wire.installation i).sorted = .ok i := by
  have hsession : Wire.readSessionId (.text (.ok i.sessionId.text)) = .ok i.sessionId := by
    simp [Wire.readSessionId, Json.Decoder.refine, Json.Decoder.text, Json.Decoder.textFor,
      Json.here, bind, Except.bind, SessionId.ofText_text hid]
  have hstamp := readStamp_stamp hend
  have hvalue : (Wire.installation i).sorted.sorted = .object [
      ("redirect_url", .text i.redirectUrl), ("session_expires_at", Wire.stamp i.expiresAt),
      ("session_id", Wire.sessionId i.sessionId)] := rfl
  rw [Json.Decoder.ofValue, hvalue]
  simp [installations, Wire.readInstallation, Wire.stamp, Wire.sessionId, Json.Node.ofValue,
    Json.Members.ofValues, Json.Fields.record, Json.Fields.map, Json.Fields.and,
    Json.Fields.required, Json.Fields.withDefault, Json.Fields.single, Json.Fields.ofMembers,
    Json.Fields.number?, Json.here, Json.under, bind, Except.bind, pure,
    Except.pure, Functor.map, Except.map, hstamp, hsession, Json.Decoder.text,
    Json.Decoder.textFor, List.idxOf?_cons]

/-- A token opens as what it was made for while that is good, and does not open otherwise. -/
theorem openFresh_make (h : (make kind payload key now e).1 = .ok (some token))
    (hv : kind.encode payload = .ok v) (hm : IsMessage v.sorted) (hnow : now.IsProper)
    (hd : kind.decode.ofValue v.sorted = .ok payload) :
    if 0 ≤ later.since now ∧ later.since now ≤ kind.maxAge then
      openFresh kind token key later = .ok payload
    else ∃ error, openFresh kind token key later = .error error := by
  rw [openFresh, openWithin_make h hv hm hnow, opened]
  by_cases hlow : later.since now < 0
  · rw [if_pos hlow, if_neg fun hage ↦ Int.not_lt.2 hage.1 hlow]
    exact ⟨_, rfl⟩
  · rw [if_neg hlow]
    by_cases hhigh : kind.maxAge < later.since now
    · rw [if_pos hhigh, if_neg fun hage ↦ Int.not_lt.2 hage.2 hhigh]
      exact ⟨_, rfl⟩
    · rw [if_neg hhigh, if_pos ⟨Int.not_lt.1 hlow, Int.not_lt.1 hhigh⟩, if_neg fun hn ↦ hn rfl, hd]
      rfl

theorem openFresh_return {r : Return} (h : (make returns r key now e).1 = .ok (some token))
    (hnow : now.IsProper) (later : Instant) :
    if 0 ≤ later.since now ∧ later.since now ≤ Instant.minutes 5 then
      openFresh returns token key later = .ok r
    else ∃ error, openFresh returns token key later = .error error :=
  openFresh_make h rfl (isMessage_return r) hnow (decode_return r)

theorem openFresh_installation {i : Installation}
    (h : (make installations i key now e).1 = .ok (some token)) (hnow : now.IsProper)
    (hid : i.sessionId.octets.length = SessionId.size) (hend : i.expiresAt.IsProper)
    (later : Instant) :
    if 0 ≤ later.since now ∧ later.since now ≤ Instant.minutes 1 then
      openFresh installations token key later = .ok i
    else ∃ error, openFresh installations token key later = .error error :=
  openFresh_make h rfl (isMessage_installation i) hnow (decode_installation hid hend)

/-- A working source always gives a token. -/
theorem exists_make (he : e.failing = false) (hv : kind.encode payload = .ok v) :
    ∃ token, (make kind payload key now e).1 = .ok (some token) := by
  rw [make_of_plaintext (plaintext_of_encode hv), Entropy.draw, he]
  exact ⟨_, rfl⟩

theorem make_of_failing (he : e.failing) (hv : kind.encode payload = .ok v) :
    make kind payload key now e = (.ok none, e) := by
  rw [make, plaintext_of_encode hv, Entropy.draw, if_pos he]
  rfl

end Token

end Gatehouse
