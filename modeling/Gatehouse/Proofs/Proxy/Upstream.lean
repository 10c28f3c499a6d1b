import Gatehouse.Proofs.Authority.Runs
import Gatehouse.Proofs.Guard.Forwarding
import Gatehouse.Proofs.Proxy.Relaying
import Gatehouse.Proofs.Proxy.Verdicts

namespace Gatehouse.Proxy

open Http (isFieldText)

variable {name : String}

theorem authorization_query (p : Proxy) (r : Http.Request) :
    (p.query r).authorization =
      (Http.valuesOf "authorization" r.readable).flatMap Http.elements :=
  Inquiry.authorization_of_fold rfl

theorem cookies_query (p : Proxy) (r : Http.Request) :
    (p.query r).cookies.flatMap Cookie.parse =
      (Http.valuesOf "cookie" r.readable).flatMap Cookie.parse :=
  Inquiry.cookies_of_fold rfl

theorem headers_respond (p : Proxy) (r : Http.Request) (c : Checked) :
    (p.respond r c).headers = (Check.verdict p.usernameHeader c).response.headers := by
  unfold respond
  split_ifs <;> rfl

theorem respond_of_answer {p : Proxy} {g : Guard} {links : Links} {key : TokenKey}
    {r : Http.Request} {s : Surroundings} {d : Decision} {c : Checked}
    (hd : (g.answer links key (p.query r) s).1 = .ok (some d)) (hc : c.result = .ok d)
    (hs : (p.respond r c).status = 200) :
    ∃ username, (p.respond r c).headers = (Verdict.ofDecision p.usernameHeader
      (.allow username (g.passedOn (p.query r)))).response.headers := by
  rw [status_respond, Check.verdict, hc] at hs
  rw [headers_respond, Check.verdict, hc]
  rcases d with ⟨username, fields⟩ | ⟨reason, url | ⟨contentType, body⟩⟩
  · exact ⟨username, by rw [Guard.fields_of_allow hd]⟩
  · cases hs
  · cases hs

theorem valuesOf_passedOn (g : Guard) (q : VisitQuery) :
    Http.valuesOf "authorization" (pairs (g.passedOn q)) = q.authorization.filter g.isForeign ∧
      Http.valuesOf "cookie" (pairs (g.passedOn q)) =
        ((q.cookies.flatMap Cookie.parse).filter fun c ↦ c.name ≠ g.cookieName).map
          Cookie.text := by
  have h : pairs (g.passedOn q) =
      (q.authorization.filter g.isForeign).map (fun v ↦ ("authorization", v)) ++
        ((((q.cookies.flatMap Cookie.parse).filter fun c ↦ c.name ≠ g.cookieName).map
          Cookie.text).map fun v ↦ ("cookie", v)) := by
    rw [Guard.passedOn_eq, pairs, List.map_append, List.map_map, List.map_map, List.map_map]
    rfl
  have ha : Text.lower "authorization" = "authorization" := by decide
  have hk : Text.lower "cookie" = "cookie" := by decide
  rw [h, Http.valuesOf_append, Http.valuesOf_append, Http.valuesOf_map, Http.valuesOf_map,
    Http.valuesOf_map, Http.valuesOf_map, ha, hk]
  exact ⟨List.append_nil _, rfl⟩

theorem isFieldText_passedOn (p : Proxy) (g : Guard) (r : Http.Request) {v : String}
    (hn : name ∈ Verdict.identifying)
    (hv : Http.folded? name (pairs (g.passedOn (p.query r))) = some v) : isFieldText v := by
  obtain ⟨ha, hk⟩ := valuesOf_passedOn g (p.query r)
  simp only [Verdict.identifying, List.mem_cons, List.not_mem_nil, or_false] at hn
  rcases hn with rfl | rfl
  · refine Http.isFieldText_folded? (by decide) (fun t ht ↦ ?_) hv
    rw [hk, cookies_query] at ht
    obtain ⟨c, hc, rfl⟩ := List.mem_map.1 ht
    obtain ⟨u, hu, hc⟩ := List.mem_flatMap.1 (List.mem_filter.1 hc).1
    exact Cookie.isFieldText_text (Http.isFieldText_of_mem_readable hu) hc
  · refine Http.isFieldText_folded? (by decide) (fun t ht ↦ ?_) hv
    rw [ha, authorization_query] at ht
    obtain ⟨u, hu, ht⟩ := List.mem_flatMap.1 (List.mem_filter.1 ht).1
    exact Http.isFieldText_of_subset (Http.isFieldText_of_mem_readable hu)
      (Http.exists_of_mem_elements ht).2.2.2

theorem key_of_mem_passedOn (g : Guard) (q : VisitQuery) :
    ∀ f ∈ pairs (g.passedOn q), f.1 ∈ Verdict.identifying := by
  rw [Guard.passedOn_eq, pairs, List.map_append, List.map_map, List.map_map]
  intro f hf
  rcases List.mem_append.1 hf with hf | hf <;> obtain ⟨v, -, rfl⟩ := List.mem_map.1 hf
  · exact (by decide : "authorization" ∈ Verdict.identifying)
  · exact (by decide : "cookie" ∈ Verdict.identifying)

theorem lower_ne_of_mem_passedOn (g : Guard) (q : VisitQuery) :
    ∀ f ∈ pairs (g.passedOn q), Text.lower f.1 ≠ Verdict.removalHeader := by
  intro f hf
  obtain ⟨hr, -, hl, -⟩ := identifying_names (key_of_mem_passedOn g q f hf)
  rwa [hl]

/-- Of the cookies and the `Authorization` values that a client sends, a site behind the proxy
receives all but those that are ours, whether the proxy removes or sets first: of the two headers
each is either removed or set. -/
theorem upstream_eq_client_without_ours (p : Proxy) (g : Guard) (links : Links) (key : TokenKey)
    (r : Http.Request) (s : Surroundings) {d : Decision} {c : Checked}
    (hu : ∀ n, p.usernameHeader = some n →
      Text.lower n ∉ Verdict.removalHeader :: Verdict.identifying)
    (hd : (g.answer links key (p.query r) s).1 = .ok (some d)) (hc : c.result = .ok d)
    (hs : (p.respond r c).status = 200) :
    let answer := (p.respond r c).headers
    (∀ sent, Relays r.headers answer sent →
      (Http.valuesOf "cookie" sent).flatMap Cookie.parse =
          ((Http.valuesOf "cookie" r.readable).flatMap Cookie.parse).filter
            (fun c ↦ c.name ≠ g.cookieName) ∧
        (Http.valuesOf "authorization" sent).flatMap Http.elements =
          ((Http.valuesOf "authorization" r.readable).flatMap Http.elements).filter g.isForeign) ∧
    ∀ name ∈ Verdict.identifying, name ∈ removals answer ↔ Http.valuesOf name answer = [] := by
  intro answer
  obtain ⟨username, h⟩ := respond_of_answer hd hc hs
  have hanswer : answer = (Verdict.ofDecision p.usernameHeader
    (.allow username (g.passedOn (p.query r)))).response.headers := h
  obtain ⟨ha, hk⟩ := valuesOf_passedOn g (p.query r)
  have htext (name : String) (hn : name ∈ Verdict.identifying) (v : String)
      (hv : Http.folded? name (pairs (g.passedOn (p.query r))) = some v) : isFieldText v :=
    isFieldText_passedOn p g r hn hv
  have hiff (name : String) (hn : name ∈ Verdict.identifying) :
      name ∈ removals answer ↔ Http.valuesOf name answer = [] := by
    rw [hanswer]
    exact removed_iff_not_set username hn hu (lower_ne_of_mem_passedOn g (p.query r))
      (htext name hn)
  refine ⟨fun sent hsent ↦ ?_, hiff⟩
  have hvalues (name : String) (hn : name ∈ Verdict.identifying) : Http.valuesOf name sent =
      (Http.folded? name (pairs (g.passedOn (p.query r)))).toList := by
    rw [hsent.valuesOf_eq (identifying_names hn).1 (hiff name hn), hanswer]
    exact valuesOf_allowed username hn (fun n h hm ↦ hu n h (List.mem_cons_of_mem _ hm))
      (htext name hn)
  constructor
  · have hl : Http.Listing (Http.separator "cookie") Cookie.parse := Cookie.listing_parse
    rw [hvalues "cookie" (by decide), hl.flatMap_folded?, hk, List.flatMap_map, cookies_query]
    refine Http.flatMap_eq_self fun c hc ↦ ?_
    obtain ⟨v, -, hc⟩ := List.mem_flatMap.1 (List.mem_filter.1 hc).1
    exact Cookie.parse_text hc
  · have hl : Http.Listing (Http.separator "authorization") Http.elements := Http.listing_elements
    rw [hvalues "authorization" (by decide), hl.flatMap_folded?, ha, authorization_query]
    refine Http.flatMap_eq_self fun v hv ↦ ?_
    obtain ⟨u, -, hv⟩ := List.mem_flatMap.1 (List.mem_filter.1 hv).1
    exact Http.elements_of_mem hv

def visitOfRoot : Http.Request where
  method := "GET"
  target := ⟨"site.example", some ⟨"/page", none⟩⟩
  headers := [
    ("Authorization", "root x, Bearer t"), ("cookie", "portcullis-session=a; theme=dark"),
    ("authorization", ",SessionID b,Basic u"), ("Cookie", "lang=en")]

theorem upstream_eq_client_without_ours_visitOfRoot :
    let p : Proxy := { usernameHeader := some "x-user" }
    let a : Authority := Authority.gate
    ∃ d c, (a.guard.answer a.links a.key (p.query visitOfRoot) ⟨⟨3, 0⟩, {}, {}⟩).1 =
        .ok (some d) ∧
      c.result = .ok d ∧ (p.respond visitOfRoot c).status = 200 ∧
      let sent := upstream visitOfRoot.headers (p.respond visitOfRoot c).headers
      (Http.valuesOf "cookie" sent).flatMap Cookie.parse = [⟨"theme", "dark"⟩, ⟨"lang", "en"⟩] ∧
        (Http.valuesOf "authorization" sent).flatMap Http.elements = ["Bearer t", "Basic u"] := by
  intro p a
  have huri : Url.ofText (p.query visitOfRoot).requestUri =
      .ok ⟨"http", some { host := "site.example" }, .rooted ["page"], none, none⟩ := by
    decide +kernel
  have hroot : a.guard.ShowsPassword (p.query visitOfRoot).authorization :=
    Guard.isRoot_iff.1 (by decide +kernel)
  obtain ⟨fields, hd⟩ : ∃ fields, (a.guard.answer a.links a.key (p.query visitOfRoot)
      ⟨⟨3, 0⟩, {}, {}⟩).1 = .ok (some (.allow "root" fields)) :=
    (Guard.answer_eq_allow rfl fun id y h ↦ by cases h).2 ⟨⟨_, huri⟩, rfl, .inl ⟨hroot, rfl⟩⟩
  have hu : ∀ n, p.usernameHeader = some n →
      Text.lower n ∉ Verdict.removalHeader :: Verdict.identifying := by
    intro n hn
    cases hn
    decide
  have hs : (p.respond visitOfRoot ⟨.ok (.allow "root" fields), 1, 0⟩).status = 200 := by
    rw [status_respond]
    rfl
  obtain ⟨hsent, -⟩ := upstream_eq_client_without_ours p a.guard a.links a.key
    visitOfRoot _ (c := ⟨.ok (.allow "root" fields), 1, 0⟩) hu hd rfl hs
  obtain ⟨hcookies, hvalues⟩ := hsent _ (relays_upstream _ _)
  refine ⟨_, _, hd, rfl, hs, hcookies.trans ?_, hvalues.trans ?_⟩
  · decide +kernel
  · decide +kernel

def eponym : Session :=
  ⟨⟨List.replicate 64 1⟩, ⟨⟨1⟩, "cookie"⟩, .epoch, ⟨9, 0⟩, .empty, {}⟩

def eponymRows : State where
  users := [eponym.user]
  sessions := [eponym]
  lastUser := 1

def visitOfEponym : Http.Request where
  method := "GET"
  target := ⟨"site.example", some ⟨"/page", none⟩⟩
  headers := [("authorization", eponym.id.authorization ++ ",Bearer t"), ("cookie", "theme=dark")]

/-- Under the name of the header that tells what is to be removed, the user's name is taken for that
of another header. That is then set and removed, and a proxy that sets first loses it. -/
theorem username_may_be_removed :
    (¬ ∀ (p : Proxy) (g : Guard) (links : Links) (key : TokenKey) (r : Http.Request)
      (s : Surroundings) (d : Decision) (c : Checked),
      (∀ n, p.usernameHeader = some n → Text.lower n ∉ Verdict.identifying) →
      (g.answer links key (p.query r) s).1 = .ok (some d) → c.result = .ok d →
      (p.respond r c).status = 200 → ∀ name ∈ Verdict.identifying,
        ¬(name ∈ removals (p.respond r c).headers ∧
          Http.valuesOf name (p.respond r c).headers ≠ [])) ∧
    ¬ ∀ (p : Proxy) (g : Guard) (links : Links) (key : TokenKey) (r : Http.Request)
      (s : Surroundings) (d : Decision) (c : Checked) (sent : Http.Fields),
      (∀ n, p.usernameHeader = some n → Text.lower n ∉ Verdict.identifying) →
      (g.answer links key (p.query r) s).1 = .ok (some d) → c.result = .ok d →
      (p.respond r c).status = 200 → Relays r.headers (p.respond r c).headers sent →
        (Http.valuesOf "cookie" sent).flatMap Cookie.parse =
          ((Http.valuesOf "cookie" r.readable).flatMap Cookie.parse).filter
            fun c ↦ c.name ≠ g.cookieName := by
  let p : Proxy := { usernameHeader := some "x-envoy-auth-headers-to-remove" }
  let a : Authority := Authority.gate
  let s : Surroundings := ⟨⟨3, 0⟩, {}, ⟨eponymRows, 0⟩⟩
  let d : Decision := .allow "cookie" [⟨"authorization", "Bearer t"⟩, ⟨"cookie", "theme=dark"⟩]
  let c : Checked := ⟨.ok d, 1, 0⟩
  have hu (n : String) (hn : p.usernameHeader = some n) : Text.lower n ∉ Verdict.identifying := by
    cases hn
    decide
  have hd : (a.guard.answer a.links a.key (p.query visitOfEponym) s).1 = .ok (some d) := by
    decide +kernel
  have hs : (p.respond visitOfEponym c).status = 200 := by decide +kernel
  constructor
  · intro h
    have hboth := h p a.guard a.links a.key visitOfEponym s d c hu hd rfl hs "cookie" (by decide)
    exact hboth (by decide +kernel)
  · intro h
    have hlost := h p a.guard a.links a.key visitOfEponym s d c _ hu hd rfl hs
      (relays_upstreamSetFirst _ _)
    exact absurd hlost (by decide +kernel)

end Gatehouse.Proxy
