import Gatehouse.Proofs.Token.Opening

namespace Gatehouse.Token

variable {α : Type} {kind : PayloadKind α} {payload : α} {key : TokenKey} {issued now : Instant}
  {nonce plain closed o : Octets} {token body : String} {v : Json.Value} {limit : Span}
  {envelope : Envelope} {r : Except TokenError α}

/-- How a token opens that was sealed at a time for a payload: what is asked for counts only if the
age is right. -/
structure SealedFor (kind : PayloadKind α) (payload : α) (key : TokenKey) (issued : Instant)
    (token : String) : Prop where
  own (limit : Span) (now : Instant) : openWithin limit kind token key now =
    if now.since issued < 0 then .error .tooNew
    else if limit < now.since issued then .error .tooOld
    else .ok payload
  foreign {β : Type} (other : PayloadKind β) (h : other.name ≠ kind.name) (limit : Span)
      (now : Instant) : openWithin limit other token key now =
    if now.since issued < 0 then .error .tooNew
    else if limit < now.since issued then .error .tooOld
    else .error (.wrongKind other.name kind.name)

theorem sealedFor_frame (hm : IsMessage v) (hissued : issued.IsProper)
    (hd : kind.decode.ofValue v = .ok payload) (hn : nonce.length = nonceSize) :
    SealedFor kind payload key issued
      (frame key nonce (Octets.ofText (Envelope.value ⟨kind.name, issued, v⟩).compact)) where
  own limit now := by
    rw [openWithin_frame hm hissued _ hn, opened, hd, if_neg (c := kind.name ≠ kind.name) (· rfl)]
    rfl
  foreign other h limit now := by
    rw [openWithin_frame hm hissued _ hn, opened, if_pos (c := kind.name ≠ other.name) h.symm]

/-- Whatever source a nonce comes from: the token that is made under it was sealed for the
payload. -/
theorem sealedFor_make (hv : kind.encode payload = .ok v) (hm : IsMessage v.sorted)
    (hissued : issued.IsProper) (hd : kind.decode.ofValue v.sorted = .ok payload)
    (hn : nonce.length = nonceSize) :
    ∃ token, (∀ e, (e.draw nonceSize).1 = some nonce →
      (make kind payload key issued e).1 = .ok (some token)) ∧
      SealedFor kind payload key issued token := by
  refine ⟨_, fun e he ↦ ?_, sealedFor_frame hm hissued hd hn⟩
  rw [make_of_plaintext (plaintext_of_encode hv), he]
  rfl

def Holds (key : TokenKey) (token : String) (envelope : Envelope) : Prop :=
  ∃ nonce plain, nonce.length = nonceSize ∧ token = frame key nonce plain ∧
    Envelope.decoder.run plain = .ok envelope

/-- How a text opens: by the first thing that is wrong with it. -/
inductive Opens (kind : PayloadKind α) (key : TokenKey) (limit : Span) (now : Instant)
    (token : String) : Except TokenError α → Prop
  | empty : token = "" → Opens kind key limit now token (.error .empty)
  | unmarked : token ≠ "" → (∀ body, token ≠ mark ++ body) →
      Opens kind key limit now token (.error (.malformed "unknown token version"))
  | garbled {body : String} {e : Base64.Error} : token = mark ++ body →
      Base64.decode .urlSafe body = .error e →
      Opens kind key limit now token (.error (.malformed e.message))
  | short {o : Octets} : token = mark ++ Base64.encode .urlSafe o →
      o.length < nonceSize + Cipher.tagLength →
      Opens kind key limit now token (.error (.malformed "token too short"))
  | forged {nonce closed : Octets} : token = mark ++ Base64.encode .urlSafe (nonce ++ closed) →
      nonce.length = nonceSize → Cipher.tagLength ≤ closed.length →
      (∀ plain, closed ≠ Cipher.encrypt key.octets nonce plain) →
      Opens kind key limit now token (.error .invalid)
  | unreadable {nonce plain : Octets} {f : Json.Flaw} : token = frame key nonce plain →
      nonce.length = nonceSize → Envelope.decoder.run plain = .error f →
      Opens kind key limit now token (.error (.malformed f.fault.message))
  | early {envelope : Envelope} : Holds key token envelope → now.since envelope.issuedAt < 0 →
      Opens kind key limit now token (.error .tooNew)
  | late {envelope : Envelope} : Holds key token envelope → 0 ≤ now.since envelope.issuedAt →
      limit < now.since envelope.issuedAt → Opens kind key limit now token (.error .tooOld)
  | foreign {envelope : Envelope} : Holds key token envelope → 0 ≤ now.since envelope.issuedAt →
      now.since envelope.issuedAt ≤ limit → envelope.kind ≠ kind.name →
      Opens kind key limit now token (.error (.wrongKind kind.name envelope.kind))
  | unfit {envelope : Envelope} {f : Json.Flaw} : Holds key token envelope →
      0 ≤ now.since envelope.issuedAt → now.since envelope.issuedAt ≤ limit →
      envelope.kind = kind.name → kind.decode.ofValue envelope.message = .error f →
      Opens kind key limit now token (.error (.payload f.fault.message))
  | own {envelope : Envelope} {a : α} : Holds key token envelope →
      0 ≤ now.since envelope.issuedAt → now.since envelope.issuedAt ≤ limit →
      envelope.kind = kind.name → kind.decode.ofValue envelope.message = .ok a →
      Opens kind key limit now token (.ok a)

theorem unframe_of_unmarked (h : ∀ body, token ≠ mark ++ body) :
    unframe key token = .error (.malformed "unknown token version") := by
  have hnone : Text.after? mark.toList token.toList = none := by
    rw [Option.eq_none_iff_forall_ne_some]
    intro rest hrest
    refine h (String.ofList rest) (String.toList_inj.1 ?_)
    rw [Text.after?_eq_some.1 hrest, String.toList_append, String.toList_ofList]
  rw [unframe, hnone]
  rfl

theorem unframe_of_garbled {e : Base64.Error} (h : Base64.decode .urlSafe body = .error e) :
    unframe key (mark ++ body) = .error (.malformed e.message) := by
  rw [unframe, after?_mark]
  simp only [String.ofList_toList, h]
  rfl

theorem unframe_of_short (h : o.length < nonceSize + Cipher.tagLength) :
    unframe key (mark ++ Base64.encode .urlSafe o) = .error (.malformed "token too short") := by
  rw [unframe, after?_mark]
  simp only [String.ofList_toList, Base64.decode_encode, mapError_ok, bind, Except.bind, h, if_true]
  rfl

theorem unframe_of_forged (hn : nonce.length = nonceSize) (hc : Cipher.tagLength ≤ closed.length)
    (h : ∀ plain, closed ≠ Cipher.encrypt key.octets nonce plain) :
    unframe key (mark ++ Base64.encode .urlSafe (nonce ++ closed)) = .error .invalid := by
  have hnone : Cipher.decrypt key.octets nonce closed = none := by
    rw [Option.eq_none_iff_forall_ne_some]
    exact fun plain hp ↦ h plain (Cipher.decrypt_eq_some.1 hp)
  rw [unframe_of_closed hn hc, hnone]

theorem unframe_cases (key : TokenKey) (token : String) :
    (∀ body, token ≠ mark ++ body) ∨
    (∃ body e, token = mark ++ body ∧ Base64.decode .urlSafe body = .error e) ∨
    (∃ o, token = mark ++ Base64.encode .urlSafe o ∧ o.length < nonceSize + Cipher.tagLength) ∨
    (∃ nonce closed, token = mark ++ Base64.encode .urlSafe (nonce ++ closed) ∧
      nonce.length = nonceSize ∧ Cipher.tagLength ≤ closed.length ∧
      ∀ plain, closed ≠ Cipher.encrypt key.octets nonce plain) ∨
    ∃ nonce plain, token = frame key nonce plain ∧ nonce.length = nonceSize := by
  by_cases hmark : ∃ body, token = mark ++ body
  · obtain ⟨body, rfl⟩ := hmark
    cases hd : Base64.decode .urlSafe body with
    | error e => exact .inr (.inl ⟨body, e, rfl, hd⟩)
    | ok o =>
      -- the base64 of a token is canonical, so its octets say all about it
      obtain rfl := Base64.decode_eq_ok.1 hd
      rcases Nat.lt_or_ge o.length (nonceSize + Cipher.tagLength) with hl | hl
      · exact .inr (.inr (.inl ⟨o, rfl, hl⟩))
      · have hparts : o = o.take nonceSize ++ o.drop nonceSize := (List.take_append_drop _ o).symm
        have hn : (o.take nonceSize).length = nonceSize := by
          rw [List.length_take]
          omega
        have hc : Cipher.tagLength ≤ (o.drop nonceSize).length := by
          rw [List.length_drop]
          omega
        by_cases hs : ∃ plain, o.drop nonceSize = Cipher.encrypt key.octets (o.take nonceSize) plain
        · obtain ⟨plain, hs⟩ := hs
          refine .inr (.inr (.inr (.inr ⟨o.take nonceSize, plain, ?_, hn⟩)))
          rw [frame, ← hs, ← hparts]
        · refine .inr (.inr (.inr (.inl ⟨_, _, ?_, hn, hc, fun plain hp ↦ hs ⟨plain, hp⟩⟩)))
          rw [← hparts]
  · exact .inl fun body hb ↦ hmark ⟨body, hb⟩

theorem openWithin_of_unframe_error {e : TokenError} (hne : token ≠ "")
    (h : unframe key token = .error e) : openWithin limit kind token key now = .error e := by
  rw [openWithin, if_neg hne, contents, h]
  rfl

theorem mark_append_ne_empty (body : String) : mark ++ body ≠ "" := by
  intro h
  have := congrArg String.toList h
  simp [mark] at this

theorem Holds.contents (h : Holds key token envelope) : contents key token = .ok envelope := by
  obtain ⟨nonce, plain, hn, rfl, hr⟩ := h
  rw [Token.contents, unframe_frame _ _ hn]
  simp [hr, bind, Except.bind]

theorem Holds.ne_empty (h : Holds key token envelope) : token ≠ "" := by
  obtain ⟨nonce, plain, -, rfl, -⟩ := h
  exact frame_ne_empty key nonce plain

theorem Holds.openWithin (h : Holds key token envelope) :
    openWithin limit kind token key now =
      if now.since envelope.issuedAt < 0 then .error .tooNew
      else if limit < now.since envelope.issuedAt then .error .tooOld
      else if envelope.kind ≠ kind.name then .error (.wrongKind kind.name envelope.kind)
      else (kind.decode.ofValue envelope.message).mapError fun f ↦ .payload f.fault.message := by
  rw [Token.openWithin, if_neg h.ne_empty, h.contents]
  simp only [bind, Except.bind]
  split
  · rfl
  · split
    · rfl
    · split <;> rfl

theorem openWithin_eq (h : Opens kind key limit now token r) :
    openWithin limit kind token key now = r := by
  cases h with
  | empty ht => rw [ht]; rfl
  | unmarked hne hm => exact openWithin_of_unframe_error hne (unframe_of_unmarked hm)
  | garbled ht hd =>
    subst ht
    exact openWithin_of_unframe_error (mark_append_ne_empty _) (unframe_of_garbled hd)
  | short ht hl =>
    subst ht
    exact openWithin_of_unframe_error (mark_append_ne_empty _) (unframe_of_short hl)
  | forged ht hn hc hf =>
    subst ht
    exact openWithin_of_unframe_error (mark_append_ne_empty _) (unframe_of_forged hn hc hf)
  | @unreadable nonce plain f ht hn hr =>
    subst ht
    rw [openWithin, if_neg (frame_ne_empty key nonce plain), contents, unframe_frame _ _ hn]
    simp [hr, bind, Except.bind]
  | early hh hage => rw [hh.openWithin, if_pos hage]
  | late hh hage hlimit => rw [hh.openWithin, if_neg (Int.not_lt.2 hage), if_pos hlimit]
  | foreign hh hage hlimit hk =>
    rw [hh.openWithin, if_neg (Int.not_lt.2 hage), if_neg (Int.not_lt.2 hlimit), if_pos hk]
  | unfit hh hage hlimit hk hd =>
    rw [hh.openWithin, if_neg (Int.not_lt.2 hage), if_neg (Int.not_lt.2 hlimit),
      if_neg (not_not_intro hk), hd, mapError_error]
  | own hh hage hlimit hk hd =>
    rw [hh.openWithin, if_neg (Int.not_lt.2 hage), if_neg (Int.not_lt.2 hlimit),
      if_neg (not_not_intro hk), hd, mapError_ok]

theorem Holds.opens (h : Holds key token envelope) : ∃ r, Opens kind key limit now token r := by
  rcases Int.lt_or_le (now.since envelope.issuedAt) 0 with hage | hage
  · exact ⟨_, .early h hage⟩
  rcases Int.lt_or_le limit (now.since envelope.issuedAt) with hlimit | hlimit
  · exact ⟨_, .late h hage hlimit⟩
  by_cases hk : envelope.kind = kind.name
  · cases hd : kind.decode.ofValue envelope.message with
    | error f => exact ⟨_, .unfit h hage hlimit hk hd⟩
    | ok a => exact ⟨_, .own h hage hlimit hk hd⟩
  · exact ⟨_, .foreign h hage hlimit hk⟩

/-- The ways to open leave nothing out. -/
theorem exists_opens (kind : PayloadKind α) (key : TokenKey) (limit : Span) (now : Instant)
    (token : String) : ∃ r, Opens kind key limit now token r := by
  by_cases hne : token = ""
  · exact ⟨_, .empty hne⟩
  rcases unframe_cases key token with hm | ⟨body, e, ht, hd⟩ | ⟨o, ht, hl⟩ |
    ⟨nonce, closed, ht, hn, hc, hf⟩ | ⟨nonce, plain, ht, hn⟩
  · exact ⟨_, .unmarked hne hm⟩
  · exact ⟨_, .garbled ht hd⟩
  · exact ⟨_, .short ht hl⟩
  · exact ⟨_, .forged ht hn hc hf⟩
  · cases hr : Envelope.decoder.run plain with
    | error f => exact ⟨_, .unreadable ht hn hr⟩
    | ok envelope => exact Holds.opens ⟨nonce, plain, hn, ht, hr⟩

theorem openWithin_eq_iff :
    openWithin limit kind token key now = r ↔ Opens kind key limit now token r := by
  refine ⟨fun h ↦ ?_, openWithin_eq⟩
  obtain ⟨r', hr⟩ := exists_opens kind key limit now token
  rw [← h, openWithin_eq hr]
  exact hr

/-- Opening undoes sealing, for the kind that was sealed and while the token is of the right age;
and any text at all is refused for the first thing that is wrong with it. -/
theorem opening_undoes_sealing (key : TokenKey) (issued : Instant) (hissued : issued.IsProper)
    (nonce : Octets) (hn : nonce.length = nonceSize) :
    (∀ p : Return, ∃ token, (∀ e, (e.draw nonceSize).1 = some nonce →
      (make returns p key issued e).1 = .ok (some token)) ∧ SealedFor returns p key issued token) ∧
    (∀ i : Installation, i.sessionId.octets.length = SessionId.size → i.expiresAt.IsProper →
      ∃ token, (∀ e, (e.draw nonceSize).1 = some nonce →
        (make installations i key issued e).1 = .ok (some token)) ∧
        SealedFor installations i key issued token) ∧
    returns.name ≠ installations.name ∧
    ∀ (α : Type) (kind : PayloadKind α) (limit : Span) (now : Instant) (token : String) r,
      openWithin limit kind token key now = r ↔ Opens kind key limit now token r :=
  ⟨fun p ↦ sealedFor_make rfl (isMessage_return p) hissued (decode_return p) hn,
    fun i hid hend ↦ sealedFor_make rfl (isMessage_installation i) hissued
      (decode_installation hid hend) hn,
    by decide, fun _ _ _ _ _ _ ↦ openWithin_eq_iff⟩

theorem opening_undoes_sealing_within_a_minute :
    let key : TokenKey := ⟨List.replicate 32 9, by decide, by decide⟩
    let i : Installation := ⟨⟨List.replicate 64 83⟩, ⟨5000, 0⟩, "/wiki"⟩
    ∃ token, openWithin installations.maxAge installations token key ⟨1060, 0⟩ = .ok i ∧
      openWithin installations.maxAge installations token key ⟨1060, 1⟩ = .error .tooOld ∧
      openWithin installations.maxAge installations token key ⟨999, 0⟩ = .error .tooNew ∧
      openWithin installations.maxAge returns token key ⟨1060, 0⟩ =
        .error (.wrongKind "portcullis.RedirectToken" "portcullis.SetCookieRequest") := by
  intro key i
  have hissued : (⟨1000, 0⟩ : Instant).IsProper :=
    (Instant.isReading_of_second (by decide) (by decide)).toIsProper
  have hend : i.expiresAt.IsProper :=
    (Instant.isReading_of_second (by decide) (by decide)).toIsProper
  obtain ⟨token, -, h⟩ := (opening_undoes_sealing key ⟨1000, 0⟩ hissued
    (List.replicate nonceSize 7) List.length_replicate).2.1 i List.length_replicate hend
  exact ⟨token, h.own _ _, h.own _ _, h.own _ _, h.foreign returns (by decide) _ _⟩

end Gatehouse.Token
