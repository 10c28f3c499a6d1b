import Gatehouse.Proofs.Authority.Routes
import Gatehouse.Proofs.Authority.Runs
import Gatehouse.Proofs.Guard.Visits
import Gatehouse.Proofs.Session.Ids
import Mathlib.Data.List.Forall2

namespace Gatehouse

open Http (Request Response)

/-- `Authorization` values that agree, but for what stands behind a scheme of somebody else. -/
inductive Alike : String → String → Prop
  | same (v : String) : Alike v v
  | foreign {scheme : String} (p q : String) : ' ' ∉ scheme.toList → scheme ≠ SessionId.scheme →
      Alike (scheme ++ " " ++ p) (scheme ++ " " ++ q)

theorem parseAuthorization_of_foreign {scheme : String} (hb : ' ' ∉ scheme.toList)
    (hs : scheme ≠ SessionId.scheme) (p : String) :
    parseAuthorization (scheme ++ " " ++ p) = .error (.unknownScheme scheme) := by
  rw [parseAuthorization_words hb, if_neg hs]

theorem Alike.parseAuthorization_eq {v w : String} (h : Alike v w) :
    parseAuthorization v = parseAuthorization w := by
  cases h with
  | same => rfl
  | foreign p q hb hs =>
    rw [parseAuthorization_of_foreign hb hs, parseAuthorization_of_foreign hb hs]

theorem filterMap_of_alike {β : Type} {vs ws : List String} (h : List.Forall₂ Alike vs ws)
    (f : Except HeaderProblem SessionId → Option β) :
    (vs.filterMap fun v ↦ f (parseAuthorization v)) =
      ws.filterMap fun v ↦ f (parseAuthorization v) := by
  induction h with
  | nil => rfl
  | cons hv _ ih => rw [List.filterMap_cons, List.filterMap_cons, hv.parseAuthorization_eq, ih]

namespace Guard

variable {g : Guard} {vs ws cookies : List String} {s : Surroundings}

theorem shownIds_of_alike (h : List.Forall₂ Alike vs ws) :
    g.shownIds ⟨vs, cookies⟩ = g.shownIds ⟨ws, cookies⟩ := by
  rw [shownIds, shownIds, filterMap_of_alike h fun r ↦ r.toOption]
  rfl

theorem flaws_of_alike (h : List.Forall₂ Alike vs ws) :
    g.flaws ⟨vs, cookies⟩ = g.flaws ⟨ws, cookies⟩ := by
  rw [flaws, flaws, filterMap_of_alike h fun r ↦ (problem? r).map Complaint.header]
  rfl

theorem showsNothing_of_alike (h : List.Forall₂ Alike vs ws) :
    g.ShowsNothing ⟨vs, cookies⟩ ↔ g.ShowsNothing ⟨ws, cookies⟩ := by
  have hnil : vs = [] ↔ ws = [] := by
    rw [← List.length_eq_zero_iff, ← List.length_eq_zero_iff, h.length_eq]
  exact and_congr hnil Iff.rfl

theorem resolve_of_alike (h : List.Forall₂ Alike vs ws) (hv : ¬ g.ShowsPassword vs)
    (hw : ¬ g.ShowsPassword ws) : g.resolve ⟨vs, cookies⟩ = g.resolve ⟨ws, cookies⟩ := by
  funext s
  rw [resolve_of_no_password (p := ⟨vs, cookies⟩) hv,
    resolve_of_no_password (p := ⟨ws, cookies⟩) hw]
  by_cases hn : g.ShowsNothing ⟨vs, cookies⟩
  · rw [authenticate_of_nothing hn, authenticate_of_nothing ((showsNothing_of_alike h).1 hn)]
  · rw [authenticate_of_something hn,
      authenticate_of_something (mt (showsNothing_of_alike h).2 hn), shownIds_of_alike h,
      flaws_of_alike h]

theorem permit_of_alike (h : List.Forall₂ Alike vs ws) (hv : ¬ g.ShowsPassword vs)
    (hw : ¬ g.ShowsPassword ws) (o : Operation) :
    g.permit o ⟨vs, cookies⟩ = g.permit o ⟨ws, cookies⟩ := by
  rw [permit, permit, resolve_of_alike h hv hw]

end Guard

/-- A decision without the fields that go on to the site. -/
def Decision.unforwarded : Decision → Decision
  | .allow username _ => .allow username []
  | .deny reason place => .deny reason place

namespace Guard

variable {g : Guard} {vs ws cookies : List String} {s : Surroundings}

theorem unforwarded_verdict (place : Destination) (fields fields' : List HeaderField)
    (r : Except (List Complaint) Session) :
    (verdict place fields r).unforwarded = (verdict place fields' r).unforwarded := by
  unfold verdict
  split
  · rfl
  · split <;> rfl

theorem judge_of_alike {q : VisitQuery} (h : List.Forall₂ Alike q.authorization ws)
    (hv : ¬ g.ShowsPassword q.authorization) (hw : ¬ g.ShowsPassword ws) (place : Destination) :
    (g.judge q place s).1.unforwarded =
        (g.judge { q with authorization := ws } place s).1.unforwarded ∧
      (g.judge q place s).2 = (g.judge { q with authorization := ws } place s).2 := by
  have hresolve : g.resolve (papers q) = g.resolve (papers { q with authorization := ws }) :=
    resolve_of_alike h hv hw
  rw [judge_apply, judge_apply, hresolve]
  exact ⟨unforwarded_verdict _ _ _ _, rfl⟩

theorem answer_of_alike {q : VisitQuery} (h : List.Forall₂ Alike q.authorization ws)
    (hv : ¬ g.ShowsPassword q.authorization) (hw : ¬ g.ShowsPassword ws) (links : Links)
    (key : TokenKey) :
    (g.answer links key q s).1.map (Option.map Decision.unforwarded) =
        (g.answer links key { q with authorization := ws } s).1.map
          (Option.map Decision.unforwarded) ∧
      (g.answer links key q s).2 = (g.answer links key { q with authorization := ws } s).2 := by
  cases hu : Url.ofText q.requestUri with
  | error e =>
    rw [answer_of_error hu, answer_of_error (q := { q with authorization := ws }) hu]
    exact ⟨rfl, rfl⟩
  | ok uri =>
    rcases loginPage_cases links key uri s with ⟨-, hp⟩ | ⟨-, token, e, -, hp⟩
    · rw [answer_of_no_page hu hp, answer_of_no_page (q := { q with authorization := ws }) hu hp]
      exact ⟨rfl, rfl⟩
    · rw [answer_of_page hu hp, answer_of_page (q := { q with authorization := ws }) hu hp]
      obtain ⟨hd, hs⟩ := judge_of_alike (s := { s with entropy := e }) h hv hw
        (elsewhere q.method (links.loginPageWith token))
      exact ⟨congrArg (fun d ↦ Except.ok (some d)) hd, hs⟩

end Guard

namespace Authority

/-- Requests that agree, but for what stands behind schemes of somebody else. -/
structure SameBarring (r r' : Request) : Prop where
  method : r'.method = r.method
  target : r'.target = r.target
  body : r'.body = r.body
  first : ∀ name, name ≠ "authorization" → r'.first name = r.first name
  cookies : r'.values "cookie" = r.values "cookie"
  authorization : List.Forall₂ Alike (r.values "authorization") (r'.values "authorization")

namespace SameBarring

variable {a : Authority} {r r' : Request} {s : Surroundings}

theorem readBody {β : Type} (h : SameBarring r r') (d : Json.Decoder β) :
    Authority.readBody r' d = Authority.readBody r d := by
  rw [Authority.readBody, Authority.readBody, h.first "content-type" (by decide), h.body]

theorem metadata (h : SameBarring r r') : Metadata.ofRequest r' = Metadata.ofRequest r := by
  rw [Metadata.ofRequest, Metadata.ofRequest, h.first "user-agent" (by decide),
    h.first "x-forwarded-for" (by decide)]

theorem perform (h : SameBarring r r') (o : Operation) (x : Session) :
    a.perform o x r' = a.perform o x r := by
  unfold Authority.perform respondTo
  simp only [h.readBody, h.metadata]

theorem papers (h : SameBarring r r') :
    Papers.ofRequest r' = ⟨r'.values "authorization", r.values "cookie"⟩ := by
  rw [Papers.ofRequest, h.cookies]

theorem logout (h : SameBarring r r') : a.logout r' = a.logout r := by
  rw [Authority.logout, Authority.logout, Guard.sessions_extract, Guard.sessions_extract, h.papers,
    ← Guard.shownIds_of_alike h.authorization]
  rfl

variable (hv : ¬ a.guard.ShowsPassword (r.values "authorization"))
variable (hw : ¬ a.guard.ShowsPassword (r'.values "authorization"))
include hv hw

theorem call (h : SameBarring r r') (o : Operation) : a.call o r' = a.call o r := by
  have hpermit : a.guard.permit o (.ofRequest r') = a.guard.permit o (.ofRequest r) := by
    rw [h.papers]
    exact (Guard.permit_of_alike h.authorization hv hw o).symm
  rw [Authority.call, Authority.call, hpermit, h.method]
  simp only [h.perform]

theorem serve (h : SameBarring r r') : a.serve r' = a.serve r := by
  have hroute : a.route r' = a.route r := by
    unfold route page
    rw [h.target, h.logout, h.method]
    simp only [h.call hv hw]
  rw [Authority.serve, Authority.serve, hroute, h.method]

end SameBarring

end Authority

/-- What stands behind a scheme of somebody else has no influence on a call, on what it is refused
with, on any response, or on whether and as whom a visitor is let in, or why not. Among visitors who
are let in it only makes a difference to the fields that go on to their site. -/
theorem foreign_secrets_unheard (g : Guard) {vs ws : List String} (h : List.Forall₂ Alike vs ws)
    (hv : ¬ g.ShowsPassword vs) (hw : ¬ g.ShowsPassword ws) :
    (∀ cookies o s, g.permit o ⟨vs, cookies⟩ s = g.permit o ⟨ws, cookies⟩ s) ∧
    (∀ links key (q : VisitQuery) s,
      let r := g.answer links key { q with authorization := vs } s
      let r' := g.answer links key { q with authorization := ws } s
      r.1.map (Option.map Decision.unforwarded) = r'.1.map (Option.map Decision.unforwarded) ∧
        r.2 = r'.2) ∧
    ∀ (a : Authority) (r r' : Request) s, a.guard = g → r.values "authorization" = vs →
      r'.values "authorization" = ws → Authority.SameBarring r r' → a.serve r s = a.serve r' s := by
  refine ⟨fun cookies o s ↦ ?_, fun links key q s ↦ ?_, fun a r r' s hg hr hr' hsame ↦ ?_⟩
  · rw [Guard.permit_of_alike h hv hw]
  · exact Guard.answer_of_alike (q := { q with authorization := vs }) h hv hw links key
  · subst hg hr hr'
    rw [hsame.serve hv hw]

def mistyped (password token : String) : Request :=
  { Authority.calledByRoot .whoAmI (.object []) with
    headers := [("authorization", "root " ++ password), ("authorization", "Bearer " ++ token)] }

theorem foreign_secrets_unheard_mistyped :
    let s : Surroundings := ⟨⟨1, 0⟩, {}, {}⟩
    Authority.gate.guard.permit .whoAmI (.ofRequest (mistyped "y" "abc")) s =
      Authority.gate.guard.permit .whoAmI (.ofRequest (mistyped "xx" "")) s ∧
    Authority.gate.serve (mistyped "y" "abc") s = Authority.gate.serve (mistyped "xx" "") s := by
  intro s
  have halike : List.Forall₂ Alike ["root y", "Bearer abc"] ["root xx", "Bearer "] :=
    .cons (@Alike.foreign "root" "y" "xx" (by decide) (by decide))
      (.cons (@Alike.foreign "Bearer" "abc" "" (by decide) (by decide)) .nil)
  have hfirst (password token name : String) (hname : name ≠ "authorization") :
      (mistyped password token).first name = "" := by
    simp [mistyped, Request.first, Text.lookup?, hname.symm]
  obtain ⟨hpermit, -, hserve⟩ := foreign_secrets_unheard Authority.gate.guard halike
    (mt Guard.isRoot_iff.2 (by decide)) (mt Guard.isRoot_iff.2 (by decide))
  refine ⟨hpermit [] .whoAmI s, hserve Authority.gate _ _ s rfl rfl rfl ?_⟩
  refine ⟨rfl, rfl, rfl, fun name hname ↦ ?_, rfl, halike⟩
  rw [hfirst _ _ _ hname, hfirst _ _ _ hname]

end Gatehouse
