import Gatehouse.Proofs.Authority.Visitors
import Gatehouse.Proofs.Proxy.Upstream

namespace Gatehouse.Proxy

open Http (isFieldText)

/-- A name that can be that of the header in which the user's name is told. -/
structure Tells (p : Proxy) (name : String) : Prop where
  configured : p.usernameHeader = some name
  token : Http.isToken name
  foreign : Text.lower name ∉ Verdict.removalHeader :: Verdict.identifying

namespace Tells

variable {p : Proxy} {name username : String} {g : Guard} {q : VisitQuery}
variable {fields : List HeaderField} {c : Checked}

theorem verdict (h : p.Tells name) (hc : c.result = .ok (.allow username fields)) :
    ∃ removed, Check.verdict p.usernameHeader c =
      .pass (Http.fold (pairs fields) ++ [(name, username)]) removed := by
  have hne : name ≠ "" := by
    rintro rfl
    exact absurd h.token (by decide)
  have htold : told p.usernameHeader username = [(name, username)] := by
    simp [told, h.configured, hne]
  refine ⟨Verdict.identifying.filter fun n ↦ Http.folded? n (pairs fields) = none, ?_⟩
  simp only [Check.verdict, hc, ofDecision_allow, htold]

theorem lower_ne_of_mem_fold (h : p.Tells name) :
    ∀ f ∈ Verdict.sendable (Http.fold (pairs (g.passedOn q))),
      Text.lower f.1 ≠ Text.lower name := by
  intro f hf hl
  obtain ⟨e, he, hfe⟩ := Verdict.exists_of_mem_sendable hf
  obtain ⟨d, hd, hed⟩ := Http.exists_of_mem_fold he
  have hk := key_of_mem_passedOn g q d hd
  rw [hfe, hed, Text.lower_lower, Text.lower_lower, (identifying_names hk).2.2.1] at hl
  exact h.foreign (List.mem_cons_of_mem _ (hl ▸ hk))

theorem valuesOf_told (h : p.Tells name) (username : String) :
    Http.valuesOf (Text.lower name) (Verdict.sendable [(name, username)]) =
      if isFieldText username then [username] else [] := by
  rw [Verdict.sendable_cons, h.token, Bool.true_and]
  split
  · exact (Http.valuesOf_singleton _ _).trans (if_pos (Text.lower_lower _))
  · rfl

end Tells

/-- Whoever is let in, the response is a success, and the header for the user's name holds the name
and nothing else if the name can be sent. The site then receives no other value under that name. -/
theorem username_told (p : Proxy) {name : String} (h : p.Tells name) (g : Guard) (links : Links)
    (key : TokenKey) (q : VisitQuery) (s : Surroundings) (r : Http.Request) {username : String}
    {fields : List HeaderField} {c : Checked}
    (ha : (g.answer links key q s).1 = .ok (some (.allow username fields)))
    (hc : c.result = .ok (.allow username fields)) :
    (p.respond r c).status = 200 ∧
      Http.valuesOf (Text.lower name) (p.respond r c).headers =
        (if isFieldText username then [username] else []) ∧
      (isFieldText username → Http.valuesOf (Text.lower name)
        (upstream r.headers (p.respond r c).headers) = [username]) := by
  obtain ⟨removed, hd⟩ := h.verdict hc
  have hr : Text.lower name ≠ Verdict.removalHeader := fun he ↦ h.foreign (he ▸ List.mem_cons_self)
  have hvalues : Http.valuesOf (Text.lower name) (p.respond r c).headers =
      if isFieldText username then [username] else [] := by
    rw [headers_respond, hd, Verdict.valuesOf_response hr, Verdict.sendable_append,
      Http.valuesOf_append, h.valuesOf_told, Guard.fields_of_allow ha,
      Http.valuesOf_eq_nil h.lower_ne_of_mem_fold, List.nil_append]
  refine ⟨?_, hvalues, fun hu ↦ ?_⟩
  · rw [status_respond, hd]
    rfl
  · have hset : Http.valuesOf (Text.lower name) (p.respond r c).headers = [username] := by
      rw [hvalues, if_pos hu]
    have hadded : Http.valuesOf (Text.lower name) (additions (p.respond r c).headers) =
        [username] := by rw [valuesOf_additions hr, hset]
    rw [valuesOf_upstream_eq, hadded, if_neg fun h₀ ↦ List.cons_ne_nil _ _ h₀.2, List.nil_append]

def spoofed : Http.Request where
  method := "GET"
  target := ⟨"site.example", some ⟨"/page", none⟩⟩
  headers := [("X-User", "ann"), ("x-user", "bob")]

def telling : Proxy := { usernameHeader := some "X-User" }

theorem telling_tells : telling.Tells "X-User" := ⟨rfl, by decide, by decide⟩

def rootVisit : VisitQuery where
  method := "GET"
  requestUri := "https://site.example/"
  authorization := ["root x"]

theorem username_told_rootVisit :
    let a := Authority.gate
    ∃ c, telling.Tells "X-User" ∧
      (a.guard.answer a.links a.key rootVisit ⟨⟨3, 0⟩, {}, {}⟩).1 =
        .ok (some (.allow "root" [])) ∧ c.result = .ok (.allow "root" []) ∧
      (telling.respond spoofed c).status = 200 ∧
      Http.valuesOf "x-user" (telling.respond spoofed c).headers = ["root"] ∧
      Http.valuesOf "x-user" (upstream spoofed.headers (telling.respond spoofed c).headers) =
        ["root"] := by
  intro a
  have ha : (a.guard.answer a.links a.key rootVisit ⟨⟨3, 0⟩, {}, {}⟩).1 =
      .ok (some (.allow "root" [])) := by decide +kernel
  obtain ⟨hs, hv, hu⟩ := username_told telling telling_tells a.guard a.links a.key
    rootVisit _ spoofed (c := ⟨.ok (.allow "root" []), 1, 0⟩) ha rfl
  exact ⟨_, telling_tells, ha, rfl, hs, hv, hu (by decide)⟩

def garbled : Session :=
  ⟨⟨List.replicate 64 1⟩, ⟨⟨1⟩, "ann\x01lee"⟩, .epoch, ⟨9, 0⟩, .empty, {}⟩

def garbledRows : State where
  users := [garbled.user]
  sessions := [garbled]
  lastUser := 1

def garbledVisit : VisitQuery where
  method := "GET"
  requestUri := "https://site.example/"
  authorization := [garbled.id.authorization]

theorem username_not_told :
    ¬ ∀ (p : Proxy) (name : String) (t t' : Transaction) (u : User) (g : Guard) (links : Links)
      (key : TokenKey) (q : VisitQuery) (s : Surroundings) (r : Http.Request)
      (fields : List HeaderField) (c : Checked), p.Tells name →
      Work.createUser u.username t = (.ok u, t') → u ∈ s.database.committed.users →
      (g.answer links key q s).1 = .ok (some (.allow u.username fields)) →
      c.result = .ok (.allow u.username fields) → (p.respond r c).status = 200 ∧
        Http.valuesOf (Text.lower name) (p.respond r c).headers = [u.username] := by
  intro h
  let a : Authority := Authority.gate
  have hu : (Work.createUser garbled.user.username (({} : Database).begin .readWrite)).1 =
      .ok garbled.user := by decide +kernel
  have ha : (a.guard.answer a.links a.key garbledVisit ⟨⟨3, 0⟩, {}, ⟨garbledRows, 0⟩⟩).1 =
      .ok (some (.allow garbled.user.username [])) := by decide +kernel
  obtain ⟨-, hv⟩ := h telling "X-User" (({} : Database).begin .readWrite) _ garbled.user a.guard
    a.links a.key garbledVisit _ spoofed [] ⟨.ok (.allow garbled.user.username []), 1, 0⟩
    telling_tells (Prod.ext hu rfl) List.mem_cons_self ha rfl
  exact absurd hv (by decide)

end Gatehouse.Proxy
