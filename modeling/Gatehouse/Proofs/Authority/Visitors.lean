import Mathlib.Data.List.Induction
import Gatehouse.Proofs.Authority.Principals
import Gatehouse.Proofs.Authority.Routes

namespace Gatehouse

open Http (Request Response)

namespace Authority

variable {a : Authority} {s : Surroundings} {q : VisitQuery} {r r' : Request} {x : Session}

theorem assigned_of_run (vs : List Arrival) (id : SessionId)
    (hx : (a.run vs).findSession id = some x) : x.user.id.isAssigned := by
  induction vs using List.reverseRecOn generalizing x with
  | nil => cases hx
  | append_singleton vs v ih =>
    rw [run_concat] at hx
    rcases (a.receive_outcome (a.run vs) v).session_origin hx with ⟨p, -, hp⟩ | ⟨y, hy, hu⟩
    · exact hp.assigned
    · exact hu ▸ ih hy

def visitResponse : Except Url.Error (Option Decision) → Option Response
  | .ok decision => decision.map fun d ↦ .json 200 (Wire.visitReply d)
  | .error e => some (Status.invalid (Guard.badUri e.message)).response

/-- The response to a query does not depend on who it is that may ask. -/
theorem serve_authorizeHttp (hd : s.database.failingCommits = 0)
    (hp : r.target.path = Operation.authorizeHttp.path) (hm : r.method = "POST")
    (hx : (a.guard.permit .authorizeHttp (.ofRequest r) s).1 = .ok x)
    (hb : readBody r Wire.readVisitQuery = .ok q) :
    a.serve r s = (visitResponse (a.guard.answer a.links a.key q s).1,
      (a.guard.answer a.links a.key q s).2) := by
  have hpermit : a.guard.permit .authorizeHttp (.ofRequest r) s = (.ok x, s) :=
    Prod.ext hx (Guard.permit_snd hd)
  have hs : a.serves .authorizeHttp = true := Bool.or_true _
  rw [serve_of_permit hp hs hm hpermit, perform, respondTo_map hb, judge, Call.run_attempt]
  rcases a.guard.answer a.links a.key q s with ⟨_ | _ | _, _⟩ <;> rfl

/-- Visits are allowed to those who show the root password and to those whose first live session has
no taints. Others are turned away, in a way that depends on what their browser does. Whoever asks
for a decision has no influence on it, and nothing is stored. Without entropy nobody gets an
answer. -/
theorem visits_decided (a : Authority) (vs : List Arrival) (q : VisitQuery)
    (hs : s.database = ⟨a.run vs, 0⟩) :
    (∀ e, (a.guard.answer a.links a.key q s).1 = .error e ↔ Url.ofText q.requestUri = .error e) ∧
    ((a.guard.answer a.links a.key q s).1 = .ok none ↔
      (∃ uri, Url.ofText q.requestUri = .ok uri) ∧ s.entropy.failing) ∧
    (∀ name, (∃ fields, (a.guard.answer a.links a.key q s).1 =
        .ok (some (.allow name fields))) ↔
      (∃ uri, Url.ofText q.requestUri = .ok uri) ∧ s.entropy.failing = false ∧
        a.guard.Admits q (a.run vs) s.now name) ∧
    (∀ uri, Url.ofText q.requestUri = .ok uri → s.entropy.failing = false →
      (∀ name, ¬ a.guard.Admits q (a.run vs) s.now name) →
        ∃ reason place,
          (a.guard.answer a.links a.key q s).1 = .ok (some (.deny reason place)) ∧
          ((∃ url, place = .redirect url) ↔
            Text.lower q.method = "get" ∨ Text.lower q.method = "head") ∧
          (¬ (Text.lower q.method = "get" ∨ Text.lower q.method = "head") →
            place = .response "text/plain" "You are not logged in.")) ∧
    (a.guard.answer a.links a.key q s).2.database = s.database ∧
    ∀ r x, r.target.path = Operation.authorizeHttp.path → r.method = "POST" →
      (a.guard.permit .authorizeHttp (.ofRequest r) s).1 = .ok x →
      readBody r Wire.readVisitQuery = .ok q →
        a.serve r s = (visitResponse (a.guard.answer a.links a.key q s).1,
          (a.guard.answer a.links a.key q s).2) := by
  have hd : s.database.failingCommits = 0 := by rw [hs]
  have hc : s.database.committed = a.run vs := by rw [hs]
  have ho (id : SessionId) (y : Session) :
      s.database.committed.findSession id = some y → y.user.id.isAssigned :=
    hc ▸ assigned_of_run vs id
  refine ⟨fun e ↦ Guard.answer_eq_error, Guard.answer_eq_none, fun name ↦ ?_,
    fun uri hu he hn ↦ ?_, Guard.answer_database hd ho, fun r x ↦ serve_authorizeHttp hd⟩
  · rw [Guard.answer_eq_allow hd ho, hc]
  · obtain ⟨reason, page, ha⟩ := Guard.answer_eq_deny hd ho hu he (hc ▸ hn)
    exact ⟨reason, _, ha, Guard.elsewhere_redirect_iff, Guard.elsewhere_of_not_navigation⟩

def annEnrolled : List Arrival := invitation ++ [keyFinished]

def afterEnrollment : Surroundings where
  now := ⟨4, 0⟩
  database := ⟨gate.run annEnrolled, 0⟩

/-- A visit with two sessions, of which the first one is not known. -/
def annsVisit : VisitQuery where
  method := "GET"
  requestUri := "https://site.example/"
  authorization := [(⟨List.replicate 64 9⟩ : SessionId).authorization, invited.authorization]

theorem visits_decided_ann :
    afterEnrollment.database = ⟨gate.run annEnrolled, 0⟩ ∧
      ∃ fields, (gate.guard.answer gate.links gate.key annsVisit afterEnrollment).1 =
        .ok (some (.allow "ann" fields)) := by
  have hs : afterEnrollment.database = ⟨gate.run annEnrolled, 0⟩ := rfl
  have hu : Url.ofText annsVisit.requestUri =
      .ok ⟨"https", some { host := "site.example" }, .rooted [""], none, none⟩ := by decide +kernel
  have hp : ¬ gate.guard.ShowsPassword annsVisit.authorization :=
    mt Guard.isRoot_iff.2 (by decide)
  have hl : (gate.run annEnrolled).FirstLive ⟨4, 0⟩ (gate.guard.shownIds (Guard.papers annsVisit))
      { namesake with user.username := "ann" } := State.firstLive_iff.2 (by decide +kernel)
  have hadmits : gate.guard.Admits annsVisit (gate.run annEnrolled) ⟨4, 0⟩ "ann" :=
    .inr ⟨hp, _, hl, rfl, rfl⟩
  obtain ⟨-, -, hallow, -⟩ := visits_decided gate annEnrolled annsVisit hs
  exact ⟨hs, (hallow "ann").2 ⟨⟨_, hu⟩, rfl, hadmits⟩⟩

end Authority

end Gatehouse
