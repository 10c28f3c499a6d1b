import Gatehouse.Proofs.Authority.Installations
import Gatehouse.Proofs.Guard.Forwarding
import Gatehouse.Proofs.Guard.Sorting

namespace Gatehouse

open Http (Request Response NewCookie)
open Http.NewCookie (isEncoded encoded)

def pairOf (text : String) : String := String.ofList (text.toList.takeWhile (· ≠ ';'))

theorem pairOf_text (c : NewCookie) : pairOf c.text = encoded c.name ++ "=" ++ encoded c.value := by
  obtain ⟨rest, hrest⟩ := c.text_eq
  have hpair : ∀ d ∈ (encoded c.name ++ "=" ++ encoded c.value).toList, d ≠ ';' := by
    intro d hd
    simp only [String.toList_append, List.mem_append] at hd
    rcases hd with (hd | hd) | hd
    · exact (NewCookie.isCompact_encoded c.name d hd).1
    · rintro rfl
      exact absurd hd (by decide)
    · exact (NewCookie.isCompact_encoded c.value d hd).1
  have hshape : c.text.toList =
      (encoded c.name ++ "=" ++ encoded c.value).toList ++ ';' :: ' ' :: rest.toList := by
    simp [hrest]
  have htake : c.text.toList.takeWhile (· ≠ ';') =
      (encoded c.name ++ "=" ++ encoded c.value).toList := by
    rw [hshape, List.takeWhile_append_of_pos fun d hd ↦ decide_eq_true (hpair d hd)]
    simp
  rw [pairOf, htake, String.ofList_toList]

namespace Presented

variable {name : String} {authorization cookies cookies' : List String} {c : Cookie}
  {id : SessionId}

theorem sessions_extract_append (name : String) (authorization cookies cookies' : List String) :
    (extract name authorization (cookies ++ cookies')).sessions =
      (extract name authorization cookies).sessions ++ (extract name [] cookies').sessions := by
  simp [extract, separate]

/-- A session cookie among others gives its id, between those that stand before and behind it. -/
theorem sessions_extract_of_named (hc : SessionId.ofText c.value = .ok id) (hn : c.name = name)
    (hp : Cookie.parse c.text = [c]) :
    (extract name authorization (cookies ++ c.text :: cookies')).sessions =
      (extract name authorization cookies).sessions ++
        id :: (extract name [] cookies').sessions := by
  have hone : (extract name [] [c.text]).sessions = [id] := by
    simp [extract, separate, sortCookie, hp, hn, hc, Except.toOption]
  rw [sessions_extract_append, ← List.singleton_append, sessions_extract_append, hone]
  rfl

theorem sessions_extract_of_other (hn : c.name ≠ name) (hp : Cookie.parse c.text = [c]) :
    (extract name authorization (cookies ++ c.text :: cookies')).sessions =
      (extract name authorization cookies).sessions ++ (extract name [] cookies').sessions := by
  have hone : (extract name [] [c.text]).sessions = [] := by
    simp [extract, separate, sortCookie, hp, hn, Except.toOption]
  rw [sessions_extract_append, ← List.singleton_append, sessions_extract_append, hone]
  rfl

/-- No cookie that is passed on could be taken for one of ours. -/
theorem text_ne_of_mem_passthrough {c' : Cookie} (hn : c.name = name) (hc : '=' ∉ c.name.toList)
    (h : c' ∈ (extract name authorization cookies).passthrough) : c'.text ≠ c.text := by
  intro ht
  rw [Guard.passthrough_extract, List.mem_filter] at h
  obtain ⟨hmem, hother⟩ := h
  obtain ⟨_, -, hmem⟩ := List.mem_flatMap.1 hmem
  obtain ⟨_, -, hpiece⟩ := List.mem_filterMap.1 hmem
  obtain ⟨-, hequals, -⟩ := Cookie.exists_of_ofPiece? hpiece
  exact of_decide_eq_true hother ((Cookie.name_eq_of_text_eq hequals hc ht).trans hn)

theorem mem_passthrough_of_other (cookies : List String) (hn : c.name ≠ name)
    (hp : Cookie.parse c.text = [c]) :
    c ∈ (extract name authorization (cookies ++ c.text :: cookies')).passthrough := by
  rw [Guard.passthrough_extract, List.mem_filter]
  refine ⟨List.mem_flatMap.2 ⟨_, List.mem_append_right _ List.mem_cons_self, ?_⟩,
    decide_eq_true hn⟩
  rw [hp]
  exact List.mem_cons_self

end Presented

namespace Authority

/-- A browser follows a link whose token holds an installation. -/
structure Presents (a : Authority) (r : Request) (s : Surroundings) (i : Installation) : Prop where
  path : r.target.path = "/set-cookie"
  method : r.method = "GET"
  fresh : ∃ token, tokenOf r.target.query = .ok token ∧
    Token.openFresh Token.installations token a.key s.now = .ok i
  named : i.sessionId.isZero = false

variable {a : Authority} {r : Request} {s : Surroundings} {i : Installation} {v : String}

theorem Presents.answered (h : a.Presents r s i) :
    (a.serve r s).1 = some ((a.sessionCookie i.sessionId.text i.expiresAt).addTo
      (landing i.redirectUrl)) := by
  obtain ⟨token, hq, ho⟩ := h.fresh
  rw [serve_setCookie h.path h.method, setCookie, hq]
  simp only [ho, h.named, landing, onward, Bool.false_eq_true, if_false]

theorem exists_presents (a : Authority) {i : Installation} (hz : i.sessionId.isZero = false)
    (hend : i.expiresAt.IsProper) {s : Surroundings} (hnow : s.now.IsProper) :
    ∃ r, a.Presents r s i := by
  obtain ⟨token, ht⟩ : ∃ token, (Token.make Token.installations i a.key s.now {}).1 =
    .ok (some token) := Token.exists_make rfl rfl
  have hplain : ∀ c ∈ token.toList, Token.isPlain c := fun c hc ↦ Token.isPlain_make ht hc
  have hopen := Token.openFresh_installation ht hnow (SessionId.isZero_eq_false.1 hz).1 hend s.now
  have hage : s.now.since s.now = 0 := by simp [Instant.since]
  rw [hage, if_pos (by decide)] at hopen
  exact ⟨{ method := "GET", target := { place := some ⟨"/set-cookie", some ("set=" ++ token)⟩ } },
    rfl, rfl, ⟨token, tokenOf_set hplain, hopen⟩, hz⟩

def kept (a : Authority) (i : Installation) : Cookie := ⟨encoded a.cookie.name, i.sessionId.text⟩

theorem encoded_sessionId (i : SessionId) : encoded i.text = i.text :=
  NewCookie.encoded_of_isPlain fun _ hc ↦ SessionId.isPlain_text hc

theorem Presents.pairOf_eq (h : a.Presents r s i) (hv : ("set-cookie", v) ∈ a.headers r s) :
    pairOf v = (a.kept i).text := by
  rw [headers_of_serve h.answered, NewCookie.addTo] at hv
  split at hv
  · rcases List.mem_append.1 hv with hv | hv
    · exact absurd hv (setCookie_not_mem_landing _ _)
    · rw [(eq_of_mem_singleton hv).2, pairOf_text]
      show _ ++ "=" ++ encoded i.sessionId.text = _
      rw [encoded_sessionId]
      rfl
  · exact absurd hv (setCookie_not_mem_landing _ _)

theorem parse_kept (hname : a.cookie.name ≠ "") : Cookie.parse (a.kept i).text = [a.kept i] := by
  have hvalue : Cookie.IsCompact i.sessionId.text := by
    have henc := NewCookie.isCompact_encoded i.sessionId.text
    rwa [encoded_sessionId] at henc
  exact Cookie.parse_pair (NewCookie.encoded_ne_empty hname) (NewCookie.isCompact_encoded _) hvalue

theorem equals_not_mem_kept (a : Authority) (i : Installation) :
    '=' ∉ (a.kept i).name.toList := fun h ↦ (NewCookie.isCompact_encoded a.cookie.name _ h).2.1 rfl

theorem name_kept_eq_iff :
    (a.kept i).name = a.cookie.name ↔ ∀ c ∈ a.cookie.name.toList, isEncoded c = false :=
  NewCookie.encoded_eq_self

/-- A browser that has been given a cookie shows it next to whatever else it has. The session is
recognized, and the cookie kept back, unless a character of the cookie's name is encoded when it is
set; then the session is not found, and the cookie is passed on as that of somebody else. Of the
characters that names should consist of this concerns five. -/
theorem kept_cookie_recognized_iff (a : Authority) (hname : a.cookie.name ≠ "")
    (h : a.Presents r s i) :
    ((∀ d ∈ a.cookie.domain, Http.isFieldText d) →
      ∃ v, ("set-cookie", v) ∈ a.headers r s) ∧
    (∀ c, Http.isTokenChar c → (isEncoded c ↔ c ∈ ['#', '%', '^', '\x60', '|'])) ∧
    ∀ v, ("set-cookie", v) ∈ a.headers r s →
      ∀ authorization others before after others',
        let found := Presented.extract a.cookie.name authorization
          (others ++ Text.joined "; " (before ++ pairOf v :: after) :: others')
        let earlier := Presented.extract a.cookie.name authorization (others ++ before)
        let later := Presented.extract a.cookie.name [] (after ++ others')
        ((∀ c ∈ a.cookie.name.toList, isEncoded c = false) →
          found.sessions = earlier.sessions ++ i.sessionId :: later.sessions ∧
            ∀ c ∈ found.passthrough, c.text ≠ pairOf v) ∧
        ((∃ c ∈ a.cookie.name.toList, isEncoded c) →
          found.sessions = earlier.sessions ++ later.sessions ∧
            ∃ c ∈ found.passthrough, c.text = pairOf v) := by
  refine ⟨fun hd ↦ ?_, fun c ↦ NewCookie.isEncoded_iff_of_isTokenChar, ?_⟩
  · obtain ⟨attributes, hheaders⟩ := headers_addTo_sessionCookie hd i.sessionId i.expiresAt
      (landing i.redirectUrl)
    rw [headers_of_serve h.answered, hheaders]
    exact ⟨_, List.mem_append_right _ List.mem_cons_self⟩
  · intro v hv authorization others before after others' found earlier later
    have hpair : pairOf v = (a.kept i).text := h.pairOf_eq hv
    have hparse : Cookie.parse (a.kept i).text = [a.kept i] := parse_kept hname
    -- cookies are parsed pair by pair, so ours may stand in a header of its own
    have hflat : (others ++ Text.joined "; " (before ++ (a.kept i).text :: after) ::
        others').flatMap Cookie.parse =
        ((others ++ before) ++ (a.kept i).text :: (after ++ others')).flatMap Cookie.parse := by
      simp [Cookie.listing_parse.joined]
    have hfound : found = Presented.extract a.cookie.name authorization
        ((others ++ before) ++ (a.kept i).text :: (after ++ others')) := by
      rw [← Presented.extract_congr hflat, ← hpair]
    have hid : SessionId.ofText (a.kept i).value = .ok i.sessionId :=
      SessionId.ofText_text (SessionId.isZero_eq_false.1 h.named).1
    rw [hfound, hpair]
    refine ⟨fun hplain ↦ ?_, fun hcoded ↦ ?_⟩
    · have hsame : (a.kept i).name = a.cookie.name := name_kept_eq_iff.2 hplain
      exact ⟨Presented.sessions_extract_of_named hid hsame hparse, fun c hc ↦
        Presented.text_ne_of_mem_passthrough hsame (a.equals_not_mem_kept i) hc⟩
    · have hdiffers : (a.kept i).name ≠ a.cookie.name := by
        intro he
        obtain ⟨c, hc, hcode⟩ := hcoded
        rw [name_kept_eq_iff.1 he c hc] at hcode
        cases hcode
      exact ⟨Presented.sessions_extract_of_other hdiffers hparse, a.kept i,
        Presented.mem_passthrough_of_other _ hdiffers hparse, rfl⟩

def guestPass : Installation := ⟨⟨List.replicate 64 7⟩, ⟨5000, 0⟩, ""⟩

theorem exists_presents_guestPass (a : Authority) :
    ∃ r, a.Presents r ⟨⟨1000, 0⟩, {}, {}⟩ guestPass :=
  a.exists_presents (by decide) (Instant.isReading_of_second (by decide) (by decide)).toIsProper
    (Instant.isReading_of_second (by decide) (by decide)).toIsProper

theorem kept_cookie_recognized_iff_guestPass :
    ∃ r v, gate.Presents r ⟨⟨1000, 0⟩, {}, {}⟩ guestPass ∧
      ("set-cookie", v) ∈ gate.headers r ⟨⟨1000, 0⟩, {}, {}⟩ ∧
      (Presented.extract gate.cookie.name []
        [Text.joined "; " ["theme=dark", pairOf v, "lang=fr"]]).sessions =
          [guestPass.sessionId] := by
  obtain ⟨r, h⟩ := gate.exists_presents_guestPass
  obtain ⟨hsent, -, hfound⟩ := kept_cookie_recognized_iff gate (by decide) h
  obtain ⟨v, hv⟩ := hsent fun d hd ↦ absurd hd (by simp [gate])
  have hplain : (gate.kept guestPass).name = gate.cookie.name := by decide
  obtain ⟨hwhole, -⟩ := hfound v hv [] [] ["theme=dark"] ["lang=fr"] []
  refine ⟨r, v, h, hv, (hwhole (name_kept_eq_iff.1 hplain)).1.trans ?_⟩
  decide

/-- A cookie of the name `a#b` is set as `a%23b`, and then taken for that of somebody else. -/
theorem coded_name_not_recognized :
    ¬ ∀ (a : Authority) (r : Request) (s : Surroundings) (i : Installation) (v : String)
      (authorization others before after others' : List String), Http.isToken a.cookie.name →
      a.Presents r s i → ("set-cookie", v) ∈ a.headers r s →
        let found := Presented.extract a.cookie.name authorization
          (others ++ Text.joined "; " (before ++ pairOf v :: after) :: others')
        i.sessionId ∈ found.sessions ∧ ∀ c ∈ found.passthrough, c.text ≠ pairOf v := by
  intro hclaim
  let a : Authority := { gate with cookie.name := "a#b" }
  obtain ⟨r, h⟩ := a.exists_presents_guestPass
  obtain ⟨attributes, hheaders⟩ := headers_addTo_sessionCookie (a := a)
    (fun d hd ↦ absurd hd (by simp [a, gate])) guestPass.sessionId guestPass.expiresAt
    (landing guestPass.redirectUrl)
  rw [← headers_of_serve h.answered] at hheaders
  have hv : ("set-cookie", encoded a.cookie.name ++ "=" ++ guestPass.sessionId.text ++ "; " ++
      attributes) ∈ a.headers r ⟨⟨1000, 0⟩, {}, {}⟩ := by
    rw [hheaders]
    exact List.mem_append_right _ List.mem_cons_self
  obtain ⟨-, hkept⟩ := hclaim a r _ guestPass _ [] [] [] [] [] (by decide) h hv
  rw [h.pairOf_eq hv] at hkept
  have hname : (a.kept guestPass).name ≠ a.cookie.name := by decide
  exact hkept _ (Presented.mem_passthrough_of_other [] hname (parse_kept (by decide))) rfl

end Authority

end Gatehouse
