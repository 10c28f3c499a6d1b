import Gatehouse.Proofs.Except
import Gatehouse.Proofs.Guard.Papers
import Gatehouse.Proofs.Http.Listings

namespace Gatehouse

variable {α β δ ε : Type} {f : α → Except ε β} {mark : α → ε → δ}

theorem separate_cons_of_ok {a : α} {b : β} (h : f a = .ok b) (as : List α) :
    separate f (a :: as) = (b :: (separate f as).1, (separate f as).2) := by
  simp [separate_eq, h, Except.toOption, problem?]

theorem separate_cons_of_error {a : α} {e : ε} (h : f a = .error e) (as : List α) :
    separate f (a :: as) = ((separate f as).1, e :: (separate f as).2) := by
  simp [separate_eq, h, Except.toOption, problem?]

def marking (f : α → Except ε β) (mark : α → ε → δ) (a : α) : Except δ β := (f a).mapError (mark a)

/-- A list is sorted into the results of those elements that have one and marks of the others, both
in the order of the elements. -/
inductive Sorts (f : α → Except ε β) (mark : α → ε → δ) : List α → List β → List δ → Prop
  | nil : Sorts f mark [] [] []
  | used {a : α} {b : β} {as : List α} {bs : List β} {us : List δ} (hb : f a = .ok b) :
      Sorts f mark as bs us → Sorts f mark (a :: as) (b :: bs) us
  | unused {a : α} {e : ε} {as : List α} {bs : List β} {us : List δ} (he : f a = .error e) :
      Sorts f mark as bs us → Sorts f mark (a :: as) bs (mark a e :: us)

namespace Sorts

variable {as : List α} {bs : List β} {us : List δ} {u : δ}

theorem iff_separate :
    Sorts f mark as bs us ↔ separate (marking f mark) as = (bs, us) := by
  have hok {a : α} {b : β} (hb : f a = .ok b) : marking f mark a = .ok b := by
    rw [marking, hb, mapError_ok]
  have herror {a : α} {e : ε} (he : f a = .error e) :
      marking f mark a = .error (mark a e) := by
    rw [marking, he, mapError_error]
  constructor
  · intro h
    induction h with
    | nil => rfl
    | used hb _ ih => rw [separate_cons_of_ok (hok hb), ih]
    | unused he _ ih => rw [separate_cons_of_error (herror he), ih]
  · intro h
    induction as generalizing bs us with
    | nil =>
      cases h
      exact .nil
    | cons a as ih =>
      cases hf : f a with
      | ok b =>
        rw [separate_cons_of_ok (hok hf)] at h
        cases h
        exact .used hf (ih rfl)
      | error e =>
        rw [separate_cons_of_error (herror hf)] at h
        cases h
        exact .unused hf (ih rfl)

theorem exists_sorts (f : α → Except ε β) (mark : α → ε → δ) (as : List α) :
    ∃ bs us, Sorts f mark as bs us := ⟨_, _, iff_separate.2 rfl⟩

theorem length_add_length (h : Sorts f mark as bs us) : bs.length + us.length = as.length := by
  induction h with
  | nil => rfl
  | used _ _ ih => simp only [List.length_cons, ← ih]; omega
  | unused _ _ ih => simp only [List.length_cons, ← ih]; omega

theorem exists_of_mem (h : Sorts f mark as bs us) (hu : u ∈ us) :
    ∃ a ∈ as, ∃ e, f a = .error e ∧ u = mark a e := by
  induction h with
  | nil => cases hu
  | used _ _ ih =>
    obtain ⟨a, ha, hrest⟩ := ih hu
    exact ⟨a, List.mem_cons_of_mem _ ha, hrest⟩
  | @unused a e _ _ _ he _ ih =>
    rcases List.mem_cons.1 hu with rfl | hu
    · exact ⟨a, List.mem_cons_self, e, he, rfl⟩
    · obtain ⟨a', ha, hrest⟩ := ih hu
      exact ⟨a', List.mem_cons_of_mem _ ha, hrest⟩

end Sorts

namespace Presented

variable {name : String} {authorization cookies cookies' : List String} {c : Cookie}
  {p : Presented} {u : UnusedCookie}

/-- The session id of a cookie. That a cookie of another name has none is no problem. -/
def sessionOf (name : String) (c : Cookie) : Except (Option SessionIdError) SessionId :=
  if c.name = name then (SessionId.ofText c.value).mapError some else .error none

theorem sortHeader_eq : sortHeader = marking parseAuthorization UnusedHeader.mk := rfl

theorem sortCookie_eq (name : String) :
    sortCookie name = marking (sessionOf name) UnusedCookie.mk := by
  funext c
  unfold sortCookie marking sessionOf
  split
  · cases SessionId.ofText c.value <;> rfl
  · rfl

theorem name_iff_of_sessionOf {reason : Option SessionIdError}
    (h : sessionOf name c = .error reason) : reason.isSome ↔ c.name = name := by
  unfold sessionOf at h
  split at h
  · next hn =>
    cases ho : SessionId.ofText c.value with
    | ok id =>
      rw [ho] at h
      cases h
    | error e =>
      rw [ho] at h
      obtain rfl : some e = reason := Except.error.inj h
      simp [hn]
  · next hn =>
    obtain rfl : none = reason := Except.error.inj h
    simp [hn]

/-- Where each thing goes: session ids of `Authorization` values come before those of cookies, and
whatever has none stays as it is. -/
theorem extract_eq_iff : extract name authorization cookies = p ↔ ∃ fromHeaders fromCookies,
    p.sessions = fromHeaders ++ fromCookies ∧
    Sorts parseAuthorization UnusedHeader.mk authorization fromHeaders p.unusedHeaders ∧
    Sorts (sessionOf name) UnusedCookie.mk (cookies.flatMap Cookie.parse) fromCookies
      p.unusedCookies := by
  constructor
  · intro h
    obtain rfl := h.symm
    refine ⟨_, _, rfl, Sorts.iff_separate.2 ?_, Sorts.iff_separate.2 ?_⟩
    · rw [← sortHeader_eq]
      rfl
    · rw [← sortCookie_eq]
      rfl
  · intro h
    obtain ⟨fromHeaders, fromCookies, hs, hheaders, hcookies⟩ := h
    rw [extract, sortHeader_eq, sortCookie_eq, Sorts.iff_separate.1 hheaders,
      Sorts.iff_separate.1 hcookies]
    dsimp only
    rw [← hs]

theorem exists_of_mem_unusedCookies (h : u ∈ (extract name authorization cookies).unusedCookies) :
    u.cookie ∈ cookies.flatMap Cookie.parse ∧ (u.reason.isSome ↔ u.cookie.name = name) := by
  obtain ⟨_, _, -, -, hs⟩ := extract_eq_iff.1 (Eq.refl (extract name authorization cookies))
  obtain ⟨c, hc, reason, he, rfl⟩ := hs.exists_of_mem h
  exact ⟨hc, name_iff_of_sessionOf he⟩

theorem length_of_extract (h : extract name authorization cookies = p) :
    p.sessions.length + p.unusedHeaders.length + p.unusedCookies.length =
      authorization.length + (cookies.flatMap Cookie.parse).length := by
  obtain ⟨fromHeaders, fromCookies, hs, hheaders, hcookies⟩ := extract_eq_iff.1 h
  rw [hs, List.length_append, ← hheaders.length_add_length, ← hcookies.length_add_length]
  omega

theorem exists_of_mem_passthrough (h : c ∈ (extract name authorization cookies).passthrough) :
    ∃ value, c ∈ Cookie.parse value := by
  obtain ⟨u, hu, rfl⟩ := List.mem_map.1 h
  obtain ⟨hc, -⟩ := exists_of_mem_unusedCookies (List.mem_filter.1 hu).1
  obtain ⟨value, -, hc⟩ := List.mem_flatMap.1 hc
  exact ⟨value, hc⟩

theorem parse_passthrough (name : String) (authorization cookies : List String) :
    let p := extract name authorization cookies
    Cookie.parse (Text.joined "; " (p.passthrough.map Cookie.text)) = p.passthrough := by
  intro p
  rw [Cookie.listing_parse.joined]
  exact Cookie.flatMap_parse_text fun c hc ↦ exists_of_mem_passthrough hc

theorem offersCredentials_eq_false_iff :
    (extract name authorization cookies).offersCredentials = false ↔
      authorization = [] ∧ ∀ c ∈ cookies.flatMap Cookie.parse, c.name ≠ name := by
  have h := Guard.offersCredentials_extract (g := { cookieName := name })
    (p := ⟨authorization, cookies⟩)
  have hnothing : Guard.ShowsNothing { cookieName := name } ⟨authorization, cookies⟩ ↔
      authorization = [] ∧ ∀ c ∈ cookies.flatMap Cookie.parse, c.name ≠ name := by
    simp only [Guard.ShowsNothing, Guard.sessionCookies, List.filter_eq_nil_iff, decide_eq_true_eq]
  rw [← Bool.not_eq_true, ← hnothing]
  exact (not_congr h).trans not_not

/-- All that is presented is found in exactly one place: as a session id, as an unused value, or as
an unused cookie. Nothing but fragments of `Cookie` values that write no cookie is lost. -/
theorem extract_sorts (name : String) (authorization cookies : List String) :
    let found := cookies.flatMap Cookie.parse
    let p := extract name authorization cookies
    (∀ q, p = q ↔ ∃ fromHeaders fromCookies, q.sessions = fromHeaders ++ fromCookies ∧
      Sorts parseAuthorization UnusedHeader.mk authorization fromHeaders q.unusedHeaders ∧
      Sorts (sessionOf name) UnusedCookie.mk found fromCookies q.unusedCookies) ∧
    (∀ u ∈ p.unusedCookies, u.reason.isSome ↔ u.cookie.name = name) ∧
    p.sessions.length + p.unusedHeaders.length + p.unusedCookies.length =
      authorization.length + found.length ∧
    (∀ value cs, Cookie.parse value = cs ↔ ∃ fragments, value = Text.joined ";" fragments ∧
      (∀ s ∈ fragments, ';' ∉ s.toList) ∧ Cookie.Reads fragments cs) ∧
    (p.offersCredentials = false ↔ authorization = [] ∧ ∀ c ∈ found, c.name ≠ name) ∧
    Cookie.parse (Text.joined "; " (p.passthrough.map Cookie.text)) = p.passthrough := by
  intro found p
  refine ⟨?_, ?_, ?_, ?_, ?_, ?_⟩
  · intro q
    exact extract_eq_iff
  · intro u hu
    exact (exists_of_mem_unusedCookies hu).2
  · exact length_of_extract rfl
  · intro value cs
    exact Cookie.parse_eq_iff
  · exact offersCredentials_eq_false_iff
  · exact parse_passthrough name authorization cookies

theorem extract_sorts_mixed :
    let p := extract "s" ["Bearer t", SessionId.zero.authorization]
      ["a = 1 ;; =x; b", "s=?; s=" ++ SessionId.zero.text]
    p.sessions = [SessionId.zero, SessionId.zero] ∧
      p.unusedHeaders = [⟨"Bearer t", .unknownScheme "Bearer"⟩] ∧
      p.unusedCookies.map UnusedCookie.cookie = [⟨"a", "1"⟩, ⟨"s", "?"⟩] ∧
      (∃ u ∈ p.unusedCookies, u.cookie = ⟨"s", "?"⟩ ∧ u.reason.isSome) ∧
      p.offersCredentials ∧
      Cookie.parse (Text.joined "; " (p.passthrough.map Cookie.text)) = [⟨"a", "1"⟩] := by
  intro p
  obtain ⟨-, hreason, -, -, hoffers, hagain⟩ := extract_sorts "s"
    ["Bearer t", SessionId.zero.authorization] ["a = 1 ;; =x; b", "s=?; s=" ++ SessionId.zero.text]
  have hu : ⟨⟨"s", "?"⟩, some (.encoding "Invalid symbol 63, offset 0.")⟩ ∈ p.unusedCookies := by
    decide +kernel
  refine ⟨by decide +kernel, by decide +kernel, by decide +kernel, ?_, ?_, ?_⟩
  · exact ⟨_, hu, rfl, (hreason _ hu).2 rfl⟩
  · rw [← Bool.not_eq_false, hoffers]
    simp
  · exact hagain.trans (by decide +kernel)

theorem extract_congr (h : cookies.flatMap Cookie.parse = cookies'.flatMap Cookie.parse) :
    extract name authorization cookies = extract name authorization cookies' := by
  rw [extract, h, extract]

end Presented

end Gatehouse
