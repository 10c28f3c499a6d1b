import Gatehouse.Proofs.Authority.Installations

namespace Gatehouse

open Http (Request Response)

variable {link token source : String}

theorem Url.text_ne_empty (u : Url) : u.text ≠ "" := by
  intro h
  have hl := congrArg String.length h
  simp [Url.text] at hl

namespace Authority

structure TurnsAway (a : Authority) (r : Request) (s : Surroundings) (q : VisitQuery)
    (reason : String) (place : Destination) : Prop where
  path : r.target.path = Operation.authorizeHttp.path
  method : r.method = "POST"
  body : readBody r Wire.readVisitQuery = .ok q
  caller : ∃ x, (a.guard.permit .authorizeHttp (.ofRequest r) s).1 = .ok x
  denied : ((a.judge q).run (a.guard.permit .authorizeHttp (.ofRequest r) s).2).1 =
    .ok (some (.deny reason place))

variable {a : Authority} {r : Request} {s : Surroundings} {b : LoginFinish} {x : Session}
  {q : VisitQuery} {uri : Url} {reason : String} {place : Destination}

theorem TurnsAway.answered (h : a.TurnsAway r s q reason place) :
    (a.serve r s).1 = some (.json 200 (Wire.visitReply (.deny reason place))) := by
  obtain ⟨x, hx⟩ := h.caller
  have hd := h.denied
  rcases hpermit : a.guard.permit .authorizeHttp (.ofRequest r) s with ⟨y, s'⟩
  rw [hpermit] at hx hd
  dsimp only at hx hd
  subst hx
  rw [serve_of_permit h.path (by simp [serves, isCeremony]) h.method hpermit, perform,
    respondTo_map h.body, hd]
  rfl

/-- Navigations are sent to the login page, which leads on to the place of the visit. -/
theorem TurnsAway.exists_token (h : a.TurnsAway r s q reason place)
    (hu : Url.ofText q.requestUri = .ok uri) (hq : isNavigation q.method) :
    ∃ token, (Token.make Token.returns ⟨uri.text⟩ a.key s.now s.entropy).1 = .ok (some token) ∧
      place = .redirect (a.links.loginPageWith token) := by
  have hsame := Guard.permit_same a.guard .authorizeHttp (.ofRequest r) s
  have hd := h.denied
  rw [judge, Call.run_attempt, mapError_eq_ok] at hd
  obtain ⟨uri', token, -, hu', -, hmake, hv, -⟩ := Guard.judged_of_answer hd
  obtain rfl : uri = uri' := Except.ok.inj (hu.symm.trans hu')
  rw [hsame.now, hsame.entropy] at hmake
  refine ⟨token, hmake, ?_⟩
  rw [Guard.elsewhere, if_pos hq] at hv
  rcases Guard.verdict_cases (.redirect (a.links.loginPageWith token)) (a.guard.passedOn q)
    (a.guard.resolve (Guard.papers q)
      (a.guard.permit .authorizeHttp (.ofRequest r) s).2).1 with ⟨x, -, -, ha⟩ | ⟨-, why, ha⟩
  · rw [ha] at hv
    cases hv
  · rw [ha] at hv
    exact (Decision.deny.inj hv).2

/-- A place that was sealed is found again within five minutes. -/
theorem returnPlace_of_make {place token : String} {now later : Instant} {e : Entropy}
    (h : (Token.make Token.returns ⟨place⟩ a.key now e).1 = .ok (some token))
    (hnow : now.IsProper) :
    a.returnPlace token later =
      if 0 ≤ later.since now ∧ later.since now ≤ Instant.minutes 5 then place else "" := by
  have hopen := Token.openFresh_return h hnow later
  split at hopen
  · rw [if_pos ‹_›, returnPlace, hopen]
  · obtain ⟨error, hopen⟩ := hopen
    rw [if_neg ‹_›, returnPlace, hopen]

theorem landing_of_ofText {text : String} (hu : Url.ofText text = .ok uri) :
    landing uri.text = onward (some uri.text) := by
  rw [landing, if_neg uri.text_ne_empty, Response.redirect, if_pos (Url.isFieldText_ofText hu)]
  rfl

/-- A visitor who is turned away and logs in is sent back to the place of the visit, and to no place
that has not been sealed. -/
theorem visit_survives_login (a : Authority) (hl : Links.ofText source = .ok a.links) :
    (∀ r s q reason place uri, TurnsAway a r s q reason place →
      Url.ofText q.requestUri = .ok uri → (Text.lower q.method = "get" ∨
        Text.lower q.method = "head") → s.now.IsProper →
      (a.serve r s).1 = some (.json 200 (Wire.visitReply (.deny reason place))) ∧
      ∃ token, place = .redirect (a.links.loginPageWith token) ∧
        ∀ r₁ s₁ b x link, FinishesLogin a r₁ s₁ b x link → b.redirectToken = token →
          s₁.now.IsProper → s₁.database.committed.IsTimely →
          (a.serve r₁ s₁).2.database.committed.findSession x.id =
            some (x.untaint Taints.startLogin).2 ∧
          Installs a x s₁.now link
            (if 0 ≤ s₁.now.since s.now ∧ s₁.now.since s.now ≤ Instant.minutes 5 then
              some uri.text else none)) ∧
    ∀ r₁ s₁ b x link r₂ s₂ url, FinishesLogin a r₁ s₁ b x link →
      s₁.now.IsProper → s₁.database.committed.IsTimely → Follows link r₂ →
      ("location", url) ∈ a.headers r₂ s₂ →
        Token.openFresh Token.returns b.redirectToken a.key s₁.now = .ok ⟨url⟩ := by
  constructor
  · intro r s q reason place uri h hu hq hnow
    refine ⟨h.answered, ?_⟩
    have hnav : isNavigation q.method := by simpa [isNavigation] using hq
    obtain ⟨token, hmake, hplace⟩ := h.exists_token hu hnav
    refine ⟨token, hplace, ?_⟩
    rintro r₁ s₁ b x link hf rfl hnow₁ ht₁
    refine ⟨hf.exists_token.2.1, hf.installs hl hnow₁ ht₁ ?_⟩
    rw [returnPlace_of_make hmake hnow]
    by_cases hage : 0 ≤ s₁.now.since s.now ∧ s₁.now.since s.now ≤ Instant.minutes 5
    · rw [if_pos hage, if_pos hage, landing_of_ofText hu]
    · rw [if_neg hage, if_neg hage]
      rfl
  · intro r₁ s₁ b x link r₂ s₂ url hf hnow₁ ht₁ hr₂ hurl
    have hserve := (hf.follow hl hnow₁ ht₁).2 r₂ s₂ hr₂
    split at hserve
    · rw [headers_of_serve hserve] at hurl
      obtain ⟨hne, rfl⟩ := location_of_mem_landing (location_of_mem_addTo hurl)
      unfold returnPlace at hne ⊢
      split
      · next i hi => exact hi
      · next e he =>
        rw [he] at hne
        exact absurd rfl hne
    · obtain ⟨why, hserve⟩ := hserve
      rw [headers_of_serve hserve] at hurl
      exact absurd (eq_of_mem_singleton hurl).1 (by decide)

section Comeback

def keyGateAt (domain : Option String) : Authority := { keyGate with cookie.domain := domain }

def visit : VisitQuery where
  method := "GET"
  requestUri := "https://site.example/a?b=1"

def visited : Url := ⟨"https", some { host := "site.example" }, .rooted ["a"], some "b=1", none⟩

theorem ofText_visit : Url.ofText visit.requestUri = .ok visited := by decide +kernel

def visitAsked : Request := calledByRoot .authorizeHttp (.object [
  ("method", .text visit.method), ("request_uri", .text visit.requestUri)])

def amidVisit : Surroundings := ⟨⟨4, 0⟩, {}, ⟨namesakeRows, 0⟩⟩

theorem papers_with_body (r : Request) (o : Octets) :
    Papers.ofRequest { r with body := o } = .ofRequest r := rfl

theorem first_with_body (r : Request) (o : Octets) (name : String) :
    ({ r with body := o } : Request).first name = r.first name := rfl

def turnedAway : String := "operation does not tolerate session taints [anonymous]"

theorem exists_turnsAway_visit (domain : Option String) :
    ∃ place, (keyGateAt domain).TurnsAway visitAsked amidVisit visit turnedAway place := by
  have hs : ((keyGateAt domain).guard.permit .authorizeHttp (.ofRequest visitAsked) amidVisit).2 =
      amidVisit := Guard.permit_snd rfl
  rcases Guard.loginPage_cases (keyGateAt domain).links (keyGateAt domain).key visited amidVisit
    with ⟨he, -⟩ | ⟨-, token, e, -, hp⟩
  · cases he
  · refine ⟨.redirect ((keyGateAt domain).links.loginPageWith token), rfl, rfl, by decide +kernel,
      ⟨.root, rfl⟩, ?_⟩
    rw [hs, judge, Call.run_attempt, Guard.answer_of_page ofText_visit hp, Guard.judge_apply]
    rfl

def loginFinishedWith (token : String) : Request := { loginFinished with
  body := .ofText (Wire.loginFinish { keyAsserted with redirectToken := token }).compact }

theorem exists_finishesLogin_loginFinishedWith (domain : Option String) (token : String) :
    ∃ link, (keyGateAt domain).FinishesLogin (loginFinishedWith token) amidComeback
      { keyAsserted with redirectToken := token } comingBack link := by
  have hx : (keyGateAt domain).guard.permit .finishLogin (.ofRequest (loginFinishedWith token))
      amidComeback = (.ok comingBack, amidComeback) := by
    have hpapers : Papers.ofRequest (loginFinishedWith token) = .ofRequest loginFinished :=
      papers_with_body _ _
    have hcaller : (keyGate.guard.permit .finishLogin (.ofRequest loginFinished) amidComeback).1 =
      .ok comingBack := by decide +kernel
    rw [hpapers]
    exact Prod.ext hcaller (Guard.permit_snd rfl)
  have hb : readBody (loginFinishedWith token) Wire.readLoginFinish =
      .ok { keyAsserted with redirectToken := token } := by
    have htype : (loginFinishedWith token).first "content-type" = "application/json" :=
      (first_with_body loginFinished _ _).trans (by decide +kernel)
    have hjson : Http.isJson "application/json" := by decide +kernel
    rw [readBody, htype, if_pos hjson, loginFinishedWith, Wire.readLoginFinish_loginFinish,
      mapError_ok]
  have hupgrade : ((keyGate.upgrade keyMaker comingBack keyAsserted.assertion).run
      amidComeback).1 = .ok (comingBack.untaint Taints.startLogin).2 := by decide +kernel
  have hu : (((keyGateAt domain).upgrade keyMaker comingBack keyAsserted.assertion).run
      amidComeback).1 = .ok (comingBack.untaint Taints.startLogin).2 := hupgrade
  have hp : (loginFinishedWith token).target.path = Operation.finishLogin.path := rfl
  have hm : (loginFinishedWith token).method = "POST" := rfl
  have he : amidComeback.entropy.failing = false := rfl
  have hv : (keyGateAt domain).verifier = some keyMaker := rfl
  exact exists_finishesLogin hp hm hv hx hb hu he

theorem isProper_second {n : Int} (h₀ : 0 ≤ n) (h₁ : n ≤ 86400) : (⟨n, 0⟩ : Instant).IsProper :=
  (Instant.isReading_of_second h₀ h₁).toIsProper

theorem isTimely_comebackRows : comebackRows.IsTimely :=
  run_loginStarted ▸ gate.run_isTimely tellsTime_loginStarted

theorem visit_survives_login_comeback :
    Links.ofText "https://id.example" = .ok keyGate.links ∧
    Url.ofText visit.requestUri = .ok visited ∧ ∃ token link,
      keyGate.TurnsAway visitAsked amidVisit visit turnedAway
        (.redirect (keyGate.links.loginPageWith token)) ∧
      keyGate.FinishesLogin (loginFinishedWith token) amidComeback
        { keyAsserted with redirectToken := token } comingBack link ∧
      keyGate.Installs comingBack amidComeback.now link (some visited.text) := by
  have hl : Links.ofText "https://id.example" = .ok keyGate.links := by decide +kernel
  obtain ⟨hsealed, -⟩ := visit_survives_login keyGate hl
  obtain ⟨place, haway⟩ := exists_turnsAway_visit none
  obtain ⟨-, token, rfl, hback⟩ := hsealed visitAsked amidVisit visit turnedAway place visited haway
    ofText_visit (.inl rfl) (isProper_second (by decide) (by decide))
  obtain ⟨link, hlogin⟩ := exists_finishesLogin_loginFinishedWith none token
  obtain ⟨-, hinstalls⟩ := hback _ _ _ _ link hlogin rfl (isProper_second (by decide) (by decide))
    isTimely_comebackRows
  exact ⟨hl, ofText_visit, token, link, haway, hlogin, hinstalls⟩

/-- A visitor who is turned away, logs in, and follows the link in time gets no cookie if its domain
has a control. -/
theorem installed_cookie_may_be_unsent :
    ¬ ∀ (a : Authority) (source : String) (r : Request) (s : Surroundings) (q : VisitQuery)
      (reason token : String) (uri : Url) (r₁ : Request) (s₁ : Surroundings) (b : LoginFinish)
      (x : Session) (link : String) (r₂ : Request) (s₂ : Surroundings),
      Links.ofText source = .ok a.links →
      TurnsAway a r s q reason (.redirect (a.links.loginPageWith token)) →
      Url.ofText q.requestUri = .ok uri →
      (Text.lower q.method = "get" ∨ Text.lower q.method = "head") → s.now.IsProper →
      FinishesLogin a r₁ s₁ b x link → b.redirectToken = token → s₁.now.IsProper →
      s₁.database.committed.IsTimely → Follows link r₂ →
      0 ≤ s₂.now.since s₁.now ∧ s₂.now.since s₁.now ≤ Instant.minutes 1 →
        ∃ v, ("set-cookie", v) ∈ a.headers r₂ s₂ := by
  intro h
  let domain : Option String := some "id\x01.example"
  let a : Authority := keyGateAt domain
  have hl : Links.ofText "https://id.example" = .ok a.links := by decide +kernel
  have hnow : amidComeback.now.IsProper := isProper_second (by decide) (by decide)
  obtain ⟨place, haway⟩ := exists_turnsAway_visit domain
  obtain ⟨token, -, rfl⟩ := haway.exists_token ofText_visit (by decide)
  obtain ⟨link, hlogin⟩ := exists_finishesLogin_loginFinishedWith domain token
  obtain ⟨hleads, hfollow⟩ := hlogin.follow hl hnow isTimely_comebackRows
  obtain ⟨query, hquery⟩ := Option.isSome_iff_exists.1 hleads
  let r₂ : Request :=
    { method := "GET", target := { place := some ⟨"/set-cookie", some query⟩ } }
  let s₂ : Surroundings := ⟨⟨6, 0⟩, {}, ⟨comebackRows, 0⟩⟩
  have hr₂ : Follows link r₂ := ⟨rfl, rfl, hquery⟩
  have hage : 0 ≤ s₂.now.since amidComeback.now ∧
      s₂.now.since amidComeback.now ≤ Instant.minutes 1 := by decide
  obtain ⟨v, hv⟩ := h a _ visitAsked amidVisit visit turnedAway token visited _ amidComeback _ _
    link r₂ s₂ hl haway ofText_visit (.inl rfl) (isProper_second (by decide) (by decide)) hlogin rfl
    hnow isTimely_comebackRows hr₂ hage
  have hserve := hfollow r₂ s₂ hr₂
  have hunsent : ¬ Http.isFieldText (a.sessionCookie comingBack.id.text
      comingBack.expiresAt).text := by
    intro hsent
    have hdomain := Http.NewCookie.isFieldText_text_iff.1 hsent _ rfl
    exact absurd hdomain (by decide)
  rw [if_pos hage, Http.NewCookie.addTo, if_neg hunsent] at hserve
  rw [headers_of_serve hserve] at hv
  exact setCookie_not_mem_landing _ v hv

end Comeback

end Authority

end Gatehouse
