import Gatehouse.Authority.Server
import Gatehouse.Proofs.Guard.Sorting
import Gatehouse.Proofs.Http.Likeness
import Gatehouse.Proxy.Server

namespace Gatehouse

open Http (Fields Request valuesOf elements)

namespace Inquiry

variable {fs : Fields} {q : Inquiry}

theorem authorization_of_fold (h : q.headers = Http.fold fs) :
    q.authorization = (valuesOf "authorization" fs).flatMap elements := by
  have hl : Http.Listing (Http.separator "authorization") elements := Http.listing_elements
  rw [← hl.read_folded?, ← Http.lookup?_fold, ← h]
  rfl

theorem cookies_of_fold (h : q.headers = Http.fold fs) :
    q.query.cookies.flatMap Cookie.parse = (valuesOf "cookie" fs).flatMap Cookie.parse := by
  have hl : Http.Listing (Http.separator "cookie") Cookie.parse := Cookie.listing_parse
  rw [← hl.read_folded?, ← Http.lookup?_fold, ← h]
  exact Cookie.flatMap_parse_text fun c hc ↦ ⟨_, hc⟩

end Inquiry

namespace Presented

variable {name : String} {fs fs' : Fields} {q : Inquiry}

def shown (name : String) (fs : Fields) : Presented :=
  extract name (valuesOf "authorization" fs) (valuesOf "cookie" fs)

/-- What is found in headers that the proxy asks about. -/
def relayed (q : Inquiry) (name : String) (fs : Fields) : Presented :=
  let told := { q with headers := Http.fold fs }.query
  extract name told.authorization told.cookies

theorem relayed_eq (q : Inquiry) (name : String) (fs : Fields) : relayed q name fs =
    extract name ((valuesOf "authorization" fs).flatMap elements) (valuesOf "cookie" fs) := by
  have ha := Inquiry.authorization_of_fold (q := { q with headers := Http.fold fs }) rfl
  have hc := Inquiry.cookies_of_fold (q := { q with headers := Http.fold fs }) rfl
  rw [relayed, extract_congr hc, ← ha]
  rfl

theorem relayed_eq_shown
    (h : ∀ v ∈ valuesOf "authorization" fs, v ≠ "" ∧ ',' ∉ v.toList ∧ Text.Unpadded v) :
    relayed q name fs = shown name fs := by
  have hone : (valuesOf "authorization" fs).flatMap elements = valuesOf "authorization" fs := by
    apply Http.flatMap_eq_self
    intro v hv
    obtain ⟨hne, hcomma, hhead, hlast⟩ := h v hv
    exact Http.elements_eq_self hne hcomma (Text.trim_eq_self hhead hlast)
  rw [relayed_eq, hone, shown]

end Presented

theorem Http.values_eq_valuesOf {r : Request} (h : ∀ f ∈ r.headers, Text.lower f.1 = f.1)
    (name : String) : r.values name = valuesOf name r.readable := by
  rw [Request.values, filterMap_ite, List.filterMap_eq_map', valuesOf]
  congr 1
  apply List.filter_congr
  intro f hf
  rw [h f (List.mem_filter.1 hf).1]

namespace Presented

/-- In headers that come by way of the proxy, the authority finds the cookies that it finds when it
is sent them, and the `Authorization` values if these are no lists. -/
theorem same_through_proxy (q : Inquiry) (name : String) (fs : Fields) :
    (∃ fromCookies unusedCookies,
      Sorts (sessionOf name) UnusedCookie.mk ((valuesOf "cookie" fs).flatMap Cookie.parse)
        fromCookies unusedCookies ∧
      (∃ fromHeaders unusedHeaders,
        Sorts parseAuthorization UnusedHeader.mk ((valuesOf "authorization" fs).flatMap elements)
          fromHeaders unusedHeaders ∧
        relayed q name fs = ⟨fromHeaders ++ fromCookies, unusedHeaders, unusedCookies⟩) ∧
      ∃ fromHeaders unusedHeaders,
        Sorts parseAuthorization UnusedHeader.mk (valuesOf "authorization" fs)
          fromHeaders unusedHeaders ∧
        shown name fs = ⟨fromHeaders ++ fromCookies, unusedHeaders, unusedCookies⟩) ∧
    ((∀ v ∈ valuesOf "authorization" fs, v ≠ "" ∧ ',' ∉ v.toList ∧ Text.Unpadded v) →
      relayed q name fs = shown name fs) ∧
    (∀ fs', (∀ n, valuesOf n fs = valuesOf n fs') → Http.Alike fs fs') ∧
    (∀ fs', Http.Alike fs fs' →
      relayed q name fs' = relayed q name fs ∧ shown name fs' = shown name fs) ∧
    ∀ (p : Proxy) (r : Request), (∀ f ∈ r.headers, Text.lower f.1 = f.1) →
      extract name (p.query r).authorization (p.query r).cookies =
          relayed (.ofRequest r p.pathStart) name r.readable ∧
        extract name (Papers.ofRequest r).authorization (Papers.ofRequest r).cookies =
          shown name r.readable := by
  refine ⟨?_, relayed_eq_shown, fun _ ↦ Http.alike_of_valuesOf_eq, ?_, ?_⟩
  · obtain ⟨fromCookies, unusedCookies, hcookies⟩ := Sorts.exists_sorts (sessionOf name)
      UnusedCookie.mk ((valuesOf "cookie" fs).flatMap Cookie.parse)
    refine ⟨fromCookies, unusedCookies, hcookies, ?_, ?_⟩
    · obtain ⟨ids, unused, hheaders⟩ := Sorts.exists_sorts parseAuthorization UnusedHeader.mk
        ((valuesOf "authorization" fs).flatMap elements)
      rw [relayed_eq]
      exact ⟨ids, unused, hheaders, extract_eq_iff.2 ⟨ids, fromCookies, rfl, hheaders, hcookies⟩⟩
    · obtain ⟨ids, unused, hheaders⟩ := Sorts.exists_sorts parseAuthorization UnusedHeader.mk
        (valuesOf "authorization" fs)
      exact ⟨ids, unused, hheaders, extract_eq_iff.2 ⟨ids, fromCookies, rfl, hheaders, hcookies⟩⟩
  · intro fs' h
    obtain ⟨ha, hc⟩ := h.invariants
    constructor
    · rw [relayed_eq, relayed_eq, ha, extract_congr hc]
    · rw [shown, shown, ha, extract_congr hc]
  · intro p r h
    refine ⟨rfl, ?_⟩
    rw [Papers.ofRequest, Http.values_eq_valuesOf h, Http.values_eq_valuesOf h, shown]

def visitInPieces : Fields := [
  ("Cookie", "theme=dark; portcullis-session=" ++ SessionId.zero.text),
  ("AUTHORIZATION", "Bearer t"), ("cookie", "lang=en")]

def visitInOne : Fields := [
  ("authorization", "Bearer t"),
  ("cookie", "theme=dark; portcullis-session=" ++ SessionId.zero.text ++ "; " ++ "lang=en")]

theorem visitInOne_alike_visitInPieces : Http.Alike visitInOne visitInPieces := by
  let bearer := ("authorization", "Bearer t")
  let first := "theme=dark; portcullis-session=" ++ SessionId.zero.text
  let second := ("cookie", "lang=en")
  have hdivision : Http.Rewritten visitInOne [bearer, ("cookie", first), second] :=
    .division [bearer] [] first "lang=en" (by decide) (by decide) (by decide)
  have hcookie : Http.Rewritten [bearer, ("cookie", first), second]
      [bearer, ("Cookie", first), second] := .spelling [bearer] [second] first (by decide)
  have horder : Http.Rewritten [bearer, ("Cookie", first), second]
      [("Cookie", first), bearer, second] := .order [] [second] (by decide)
  have hbearer : Http.Rewritten [("Cookie", first), bearer, second] visitInPieces :=
    .spelling [("Cookie", first)] [second] "Bearer t" (by decide)
  apply Relation.EqvGen.trans _ _ _ (.rel _ _ hdivision)
  apply Relation.EqvGen.trans _ _ _ (.rel _ _ hcookie)
  exact .trans _ _ _ (.rel _ _ horder) (.rel _ _ hbearer)

theorem same_through_proxy_visitInOne :
    let r : Request :=
      { method := "GET", target := ⟨"site.example", some ⟨"/page", none⟩⟩, headers := visitInOne }
    let told := ({} : Proxy).query r
    let papers := Papers.ofRequest r
    let found : Presented := ⟨[SessionId.zero], [⟨"Bearer t", .unknownScheme "Bearer"⟩],
      [⟨⟨"theme", "dark"⟩, none⟩, ⟨⟨"lang", "en"⟩, none⟩]⟩
    extract "portcullis-session" told.authorization told.cookies = found ∧
      extract "portcullis-session" papers.authorization papers.cookies = found ∧
      relayed (.ofRequest r "") "portcullis-session" visitInPieces = found := by
  intro r told papers found
  obtain ⟨-, hwhole, -, halike, hrequest⟩ :=
    same_through_proxy (.ofRequest r "") "portcullis-session" visitInOne
  have hfound : shown "portcullis-session" visitInOne = found := by decide +kernel
  have hreadable : r.readable = visitInOne := by decide +kernel
  have hrelayed : relayed (.ofRequest r "") "portcullis-session" visitInOne = found := by
    rw [← hfound]
    apply hwhole
    have hvalues : valuesOf "authorization" visitInOne = ["Bearer t"] := by decide
    intro v hv
    rw [hvalues, List.mem_singleton] at hv
    obtain rfl := hv
    refine ⟨by decide, by decide, ?_, ?_⟩
    · intro c hc
      obtain rfl : c = 'B' := (Option.some.inj hc).symm
      decide
    · intro c hc
      obtain rfl : c = 't' := (Option.some.inj hc).symm
      decide
  have hlower : ∀ f ∈ r.headers, Text.lower f.1 = f.1 := by decide
  obtain ⟨htold, hpapers⟩ := hrequest {} r hlower
  rw [hreadable] at htold hpapers
  refine ⟨htold.trans hrelayed, hpapers.trans hfound, ?_⟩
  rw [(halike _ visitInOne_alike_visitInPieces).1]
  exact hrelayed

end Presented

end Gatehouse
