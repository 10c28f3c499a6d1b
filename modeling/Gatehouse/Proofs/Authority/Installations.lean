import Gatehouse.Proofs.Authority.Logins
import Gatehouse.Proofs.Http.Cookies
import Gatehouse.Proofs.Json.Records

namespace Gatehouse

open Http (Request Response)

variable {link token source : String}

def queryOf (link : String) : Option String :=
  (Text.cut '?' (link.toList.takeWhile (· ≠ '#'))).map fun p ↦ String.ofList p.2

theorem Links.queryOf_setCookie {l : Links} (hl : Links.ofText source = .ok l)
    (ht : ∀ c ∈ token.toList, Token.isPlain c) :
    queryOf (l.setCookie token) = some ("set=" ++ token) := by
  have hshape : (l.setCookie token).toList =
      (l.base.text ++ "set-cookie").toList ++ '?' :: ("set=" ++ token).toList := by
    simp [Links.setCookie]
  have hfront : Url.IsFront (l.base.text ++ "set-cookie") :=
    (Links.isFront_base hl).append (by decide)
  have hquestion : '?' ∉ (l.base.text ++ "set-cookie").toList := fun hc ↦
    absurd (hfront '?' hc) (by decide)
  have hnumber : ∀ c ∈ (l.setCookie token).toList, c ≠ '#' := by
    rintro c hc rfl
    rw [hshape, List.mem_append, List.mem_cons] at hc
    rcases hc with hc | hc | hc
    · exact absurd (hfront '#' hc) (by decide)
    · exact absurd hc (by decide)
    · rw [String.toList_append, List.mem_append] at hc
      exact hc.elim (fun h ↦ absurd h (by decide)) fun h ↦ absurd (ht '#' h) (by decide)
  have hwhole : (l.setCookie token).toList.takeWhile (· ≠ '#') = (l.setCookie token).toList :=
    List.takeWhile_eq_self_iff.2 fun c hc ↦ decide_eq_true (hnumber c hc)
  rw [queryOf, hwhole, hshape, Text.cut_append hquestion, Option.map_some, String.ofList_toList]

namespace Wire

open Json.Decoder (Recovers recovers_text)
open Json.Fields (takes_single)

theorem ceremonyDone_inj {link' : String}
    (h : (ceremonyDone link).compact = (ceremonyDone link').compact) : link = link' := by
  have hread (url : String) :
      ((Json.Fields.required "redirect_url" Json.Decoder.text).record "").run
        (Octets.ofText (ceremonyDone url).compact) = .ok url :=
    ((takes_single (recovers_text url)).record "").run_compact rfl
  have hlink := hread link
  rw [h, hread link'] at hlink
  exact (Except.ok.inj hlink).symm

theorem recovers_octets (o : Octets) : readOctets.Recovers (octets o) o := by
  have hstrip : (Base64.encode .urlSafe o).toList.reverse.dropWhile (· = '=') =
      (Base64.encode .urlSafe o).toList.reverse := by
    refine List.dropWhile_eq_self_iff.2 fun h heq ↦ ?_
    have hmem := List.mem_reverse.1 (List.getElem_mem h)
    rw [of_decide_eq_true heq] at hmem
    exact absurd (Token.isPlain_encode hmem) (by decide)
  intro form
  simp [octets, readOctets, Json.Node.ofValue, Json.Decoder.refine, Json.Decoder.text,
    Json.Decoder.textFor, Json.here, bind, Except.bind, hstrip, Base64.decode_encode]

theorem recovers_assertion (a : Assertion) : readAssertion.Recovers (assertion a) a :=
  (((takes_single (recovers_octets a.credentialId)).field (recovers_octets a.clientData)
    (by decide)).field (recovers_octets a.authenticatorData) (by decide)).field
    (recovers_octets a.signature) (by decide) |>.map _ |>.record _

theorem recovers_loginFinish (b : LoginFinish) : readLoginFinish.Recovers (loginFinish b) b :=
  (takes_single (recovers_assertion b.assertion)).field (recovers_text b.redirectToken) (by decide)
    |>.map _ |>.record _

theorem readLoginFinish_loginFinish (b : LoginFinish) :
    readLoginFinish.run (Octets.ofText (loginFinish b).compact) = .ok b :=
  (recovers_loginFinish b).run_compact rfl

end Wire

namespace Authority

/-- A login is finished by somebody whose session it upgrades, and who is given a link. -/
structure FinishesLogin (a : Authority) (r : Request) (s : Surroundings) (b : LoginFinish)
    (x : Session) (link : String) : Prop where
  path : r.target.path = Operation.finishLogin.path
  body : readBody r Wire.readLoginFinish = .ok b
  caller : (a.guard.permit .finishLogin (.ofRequest r) s).1 = .ok x
  answered : (a.serve r s).1 = some (.json 200 (Wire.ceremonyDone link))

structure Follows (link : String) (r : Request) : Prop where
  path : r.target.path = "/set-cookie"
  method : r.method = "GET"
  query : queryOf link = some r.target.query

def onward : Option String → Response
  | some url => ⟨307, [("location", url)], ""⟩
  | none => ⟨200, [("content-type", "text/plain")], "ok"⟩

def landing (place : String) : Response :=
  if place = "" then onward none else .redirect place

/-- A link that installs a session, within a minute from `now`, and sends the browser on. -/
structure Installs (a : Authority) (x : Session) (now : Instant) (link : String)
    (place : Option String) : Prop where
  leads : (queryOf link).isSome
  in_time : ∀ r s, Follows link r → 0 ≤ s.now.since now ∧ s.now.since now ≤ Instant.minutes 1 →
    (a.serve r s).1 = some ((a.sessionCookie x.id.text x.expiresAt).addTo (onward place))
  cookie : (∀ d ∈ a.cookie.domain, Http.isFieldText d) → ∃ attributes,
    ((a.sessionCookie x.id.text x.expiresAt).addTo (onward place)).headers =
      (onward place).headers ++ [("set-cookie", Http.NewCookie.encoded a.cookie.name ++ "=" ++
        x.id.text ++ "; " ++ attributes)]
  otherwise : ∀ r s, Follows link r →
    ¬(0 ≤ s.now.since now ∧ s.now.since now ≤ Instant.minutes 1) →
      ∃ response, (a.serve r s).1 = some response ∧ response.status = 400 ∧
        ∀ v, ("set-cookie", v) ∉ response.headers

variable {a : Authority} {r : Request} {s : Surroundings} {b : LoginFinish} {x : Session}

/-- Who finishes a login has a live session, which has been upgraded, and a link that holds it. -/
theorem FinishesLogin.exists_token {link : String} (h : a.FinishesLogin r s b x link) :
    s.database.committed.HasLive s.now x.id x ∧
    (a.serve r s).2.database.committed.findSession x.id =
      some (x.untaint Taints.startLogin).2 ∧
    ∃ token e, link = a.links.setCookie token ∧
      (Token.make Token.installations ⟨x.id, x.expiresAt, a.returnPlace b.redirectToken s.now⟩ a.key
        s.now e).1 = .ok (some token) := by
  have hx := h.caller
  have hok : (a.serve r s).1.map Response.status = some 200 := by
    rw [h.answered]
    rfl
  obtain ⟨hserves, hm⟩ := posted_of_status h.path hx hok
  obtain ⟨v, hv⟩ : ∃ v, a.verifier = some v := by
    simpa [serves, isCeremony, Option.isSome_iff_exists] using hserves
  have hsame := Guard.permit_same a.guard .finishLogin (.ofRequest r) s
  have hanswered := h.answered
  rcases hpermit : a.guard.permit .finishLogin (.ofRequest r) s with ⟨y, s₁⟩
  rw [hpermit] at hx hsame
  dsimp only at hx hsame
  subst hx
  rw [serve_finishLogin h.path hm hv hpermit h.body, finishLogin_run] at hanswered hok ⊢
  have hend := a.upgrade_outcome v x b.assertion s₁
  rcases hup : (a.upgrade v x b.assertion).run s₁ with ⟨e | y, s₂⟩
  · rw [hup] at hok
    exact absurd (Option.some.inj hok) (status_response e)
  · rw [hup] at hend hanswered hok
    cases hend with
    | @vouched z d c n _ hd hc hci hn hz hs₂ hdraw =>
      rw [hsame.committed, hsame.now] at hz
      obtain ⟨hl, hzx⟩ := Guard.eq_of_permit_of_live (by rw [hpermit]) hz
      obtain rfl : x = z := hzx.symm
      dsimp only at hanswered hok ⊢
      rw [installationLink_run] at hanswered hok ⊢
      have hnow : s₂.now = s.now := hdraw.now.trans hsame.now
      refine ⟨hl, ?_, ?_⟩
      · show s₂.database.committed.findSession x.id = _
        rw [hs₂, State.findSession_withSession, Session.untaint_id, if_pos rfl]
      · dsimp only at hanswered hok
        rw [hnow] at hanswered hok
        rcases hmake : Token.make Token.installations ⟨(x.untaint Taints.startLogin).2.id,
          (x.untaint Taints.startLogin).2.expiresAt, a.returnPlace b.redirectToken s.now⟩ a.key
          s.now s₂.entropy with ⟨e | _ | token, e'⟩
        · rw [hmake] at hok
          exact absurd (Option.some.inj hok) (status_response _)
        · rw [hmake] at hok
          cases hok
        · rw [hmake] at hanswered
          have hbody := congrArg Response.body (Option.some.inj hanswered)
          exact ⟨token, s₂.entropy, (Wire.ceremonyDone_inj hbody).symm, congrArg Prod.fst hmake⟩

theorem exists_finishesLogin {s' : Surroundings} {v : Verifier} {y : Session}
    (hp : r.target.path = Operation.finishLogin.path) (hm : r.method = "POST")
    (hv : a.verifier = some v) (hx : a.guard.permit .finishLogin (.ofRequest r) s = (.ok x, s'))
    (hb : readBody r Wire.readLoginFinish = .ok b)
    (hu : ((a.upgrade v x b.assertion).run s').1 = .ok y) (he : s.entropy.failing = false) :
    ∃ link, a.FinishesLogin r s b x link := by
  have hsame := Guard.permit_same a.guard .finishLogin (.ofRequest r) s
  rw [hx] at hsame
  have hend := a.upgrade_outcome v x b.assertion s'
  rcases hup : (a.upgrade v x b.assertion).run s' with ⟨e | z, s₂⟩
  · rw [hup] at hu
    cases hu
  · rw [hup] at hend
    cases hend with
    | @vouched z _ _ _ _ _ _ _ _ _ _ hdraw =>
      have hworks : s₂.entropy.failing = false := by rw [hdraw.entropy, hsame.entropy, he]
      obtain ⟨token, s₃, hlink, -⟩ := a.installationLink_of_working
        (z.untaint Taints.startLogin).2 (a.returnPlace b.redirectToken s₂.now) hworks
      refine ⟨a.links.setCookie token, hp, hb, congrArg Prod.fst hx, ?_⟩
      rw [serve_finishLogin hp hm hv hx hb, finishLogin_run, hup]
      dsimp only
      rw [hlink]
      rfl

theorem serve_setCookie (hp : r.target.path = "/set-cookie") (hm : r.method = "GET") :
    (a.serve r s).1 = some (a.setCookie r.target.query s.now) := by
  have hroute : a.route r = page r do return a.setCookie r.target.query (← Deed.now) := by
    unfold route
    split
    · rfl
    · next h => exact absurd (hp.symm.trans h) (by decide)
    · next h _ => exact absurd hp h
  rw [serve_of_page hm hroute]
  rfl

theorem setCookie_of_open {token : String} {i : Installation} {now : Instant}
    (ht : ∀ c ∈ token.toList, Token.isPlain c)
    (ho : Token.openFresh Token.installations token a.key now = .ok i)
    (hz : i.sessionId.isZero = false) :
    a.setCookie ("set=" ++ token) now = (a.sessionCookie i.sessionId.text i.expiresAt).addTo
      (landing i.redirectUrl) := by
  rw [setCookie, tokenOf_set ht]
  simp only [ho, hz, landing, onward, Bool.false_eq_true, if_false]

theorem setCookie_of_error {token : String} {e : TokenError} {now : Instant}
    (ht : ∀ c ∈ token.toList, Token.isPlain c)
    (ho : Token.openFresh Token.installations token a.key now = .error e) :
    ∃ why, a.setCookie ("set=" ++ token) now = .text 400 why := by
  refine ⟨s!"open set-cookie token: {e.message}", ?_⟩
  rw [setCookie, tokenOf_set ht]
  simp only [ho]

/-- The cookie names the session, and is sent unless its domain cannot be. -/
theorem headers_addTo_sessionCookie (hd : ∀ d ∈ a.cookie.domain, Http.isFieldText d)
    (id : SessionId) (ends : Instant) (response : Response) :
    ∃ attributes, ((a.sessionCookie id.text ends).addTo response).headers = response.headers ++
      [("set-cookie", Http.NewCookie.encoded a.cookie.name ++ "=" ++ id.text ++ "; " ++
        attributes)] := by
  obtain ⟨attributes, ht⟩ := (a.sessionCookie id.text ends).text_eq
  have hsent : Http.isFieldText (a.sessionCookie id.text ends).text :=
    Http.NewCookie.isFieldText_text hd
  have hvalue : Http.NewCookie.encoded (a.sessionCookie id.text ends).value = id.text :=
    Http.NewCookie.encoded_of_isPlain fun c hc ↦ SessionId.isPlain_text hc
  rw [hvalue] at ht
  refine ⟨attributes, ?_⟩
  rw [Http.NewCookie.addTo, if_pos hsent, ht]
  rfl

theorem eq_of_mem_singleton {name name' value v : String}
    (h : (name, v) ∈ [(name', value)]) : name = name' ∧ v = value :=
  Prod.mk.inj (List.mem_singleton.1 h)

theorem location_of_mem_addTo {c : Http.NewCookie} {response : Response} {url : String}
    (h : ("location", url) ∈ (c.addTo response).headers) :
    ("location", url) ∈ response.headers := by
  unfold Http.NewCookie.addTo at h
  split at h
  · rcases List.mem_append.1 h with h | h
    · exact h
    · exact absurd (eq_of_mem_singleton h).1 (by decide)
  · exact h

theorem location_of_mem_landing {place url : String}
    (h : ("location", url) ∈ (landing place).headers) : place ≠ "" ∧ url = place := by
  unfold landing Response.redirect at h
  split at h
  · exact absurd (eq_of_mem_singleton h).1 (by decide)
  · split at h
    · exact ⟨‹_›, (eq_of_mem_singleton h).2⟩
    · exact absurd (eq_of_mem_singleton h).1 (by decide)

theorem setCookie_not_mem_landing (place v : String) :
    ("set-cookie", v) ∉ (landing place).headers := by
  unfold landing Response.redirect
  split
  · exact fun h ↦ absurd (eq_of_mem_singleton h).1 (by decide)
  · split <;> exact fun h ↦ absurd (eq_of_mem_singleton h).1 (by decide)

theorem FinishesLogin.follow {link : String} (h : a.FinishesLogin r s b x link)
    (hl : Links.ofText source = .ok a.links) (hnow : s.now.IsProper)
    (ht : s.database.committed.IsTimely) :
    (queryOf link).isSome ∧ ∀ r' s', Follows link r' →
      if 0 ≤ s'.now.since s.now ∧ s'.now.since s.now ≤ Instant.minutes 1 then
        (a.serve r' s').1 = some ((a.sessionCookie x.id.text x.expiresAt).addTo
          (landing (a.returnPlace b.redirectToken s.now)))
      else ∃ why, (a.serve r' s').1 = some (.text 400 why) := by
  obtain ⟨hlive, -, token, e, rfl, hmake⟩ := h.exists_token
  have hplain (c : Char) (hc : c ∈ token.toList) : Token.isPlain c := Token.isPlain_make hmake hc
  have hq := Links.queryOf_setCookie hl hplain
  have hz : x.id.isZero = false := (State.live_eq_ok.1 (State.hasLive_iff.1 hlive)).1
  refine ⟨by rw [hq]; rfl, fun r' s' hf ↦ ?_⟩
  have hopen := Token.openFresh_installation hmake hnow hlive.length (ht x.id x hlive.stored) s'.now
  rw [serve_setCookie hf.path hf.method, Option.some.inj (hf.query.symm.trans hq)]
  split at hopen
  · rw [if_pos ‹_›, setCookie_of_open hplain hopen hz]
  · rw [if_neg ‹_›]
    obtain ⟨e, hopen⟩ := hopen
    obtain ⟨why, hwhy⟩ := setCookie_of_error hplain hopen
    exact ⟨why, congrArg some hwhy⟩

theorem FinishesLogin.installs {link : String} {place : Option String}
    (h : a.FinishesLogin r s b x link) (hl : Links.ofText source = .ok a.links)
    (hnow : s.now.IsProper) (ht : s.database.committed.IsTimely)
    (hp : landing (a.returnPlace b.redirectToken s.now) = onward place) :
    Installs a x s.now link place := by
  obtain ⟨hleads, hfollow⟩ := h.follow hl hnow ht
  refine ⟨hleads, fun r' s' hf hage ↦ ?_, fun hd ↦ headers_addTo_sessionCookie hd _ _ _,
    fun r' s' hf hage ↦ ?_⟩
  · have hserve := hfollow r' s' hf
    rw [if_pos hage, hp] at hserve
    exact hserve
  · have hserve := hfollow r' s' hf
    rw [if_neg hage] at hserve
    obtain ⟨why, hserve⟩ := hserve
    exact ⟨_, hserve, rfl, fun v hv ↦ absurd (eq_of_mem_singleton hv).1 (by decide)⟩

end Authority

end Gatehouse
