import Mathlib.Data.List.Basic
import Gatehouse.Proofs.Authority.Routes
import Gatehouse.Proofs.Authority.Runs
import Gatehouse.Proofs.Wire.Recovery
import Gatehouse.Proxy.Client

namespace Gatehouse

open Http (Request Response)

namespace Client

def receive (response : Response) : Except CallError Decision :=
  read response.status (.ofText response.body)

/-- What the proxy should learn of the outcome of its call: the decision, or the failure as far as
it may be shown; nothing if the call breaks off. -/
def learned : Except Status (Option Decision) → Option (Except CallError Decision)
  | .ok d => d.map .ok
  | .error e => some (.error (.status e.code.httpStatus
      ⟨e.code, if e.code = .internal then "internal error" else e.message⟩))

theorem read_reply (d : Decision) : read 200 (.ofText (Wire.visitReply d).compact) = .ok d := by
  have hrun := (Wire.recovers_visitReply d).run_compact (Wire.isNumberless_visitReply d)
  rw [read, show isBodiless 200 = false from rfl, if_pos (by decide)]
  simp only [Bool.false_eq_true, if_false, hrun, mapError_ok]

theorem isBodiless_httpStatus (c : Code) : isBodiless c.httpStatus = false := by
  cases c <;> rfl

theorem not_success_httpStatus (c : Code) : ¬(200 ≤ c.httpStatus ∧ c.httpStatus < 300) := by
  cases c <;> decide

theorem receive_failure (e : Status) : some (receive e.response) = learned (.error e) := by
  have hrun : Wire.readStatus.run (.ofText (Wire.status e.shown).compact) = .ok e.shown :=
    (Wire.recovers_status e.shown).run_compact rfl
  have hshown : e.shown = ⟨e.code, if e.code = .internal then "internal error" else e.message⟩ := by
    unfold Status.shown
    split <;> rfl
  rw [receive, Status.response, Response.json, read, isBodiless_httpStatus,
    if_neg (not_success_httpStatus _)]
  simp only [Bool.false_eq_true, if_false, hrun]
  rw [learned, hshown]

theorem receive_responseTo (r : Except Status (Option Decision)) :
    (Authority.responseTo (r.map (Option.map Wire.visitReply))).map receive = learned r := by
  rcases r with e | _ | d
  · exact receive_failure e
  · rfl
  · exact congrArg some (read_reply d)

end Client

namespace Authority

variable {a : Authority} {r : Request} {q : VisitQuery} {s : Surroundings}

structure Asks (r : Request) (q : VisitQuery) : Prop where
  path : r.target.path = Operation.authorizeHttp.path
  method : r.method = "POST"
  contentType : r.first "content-type" = "application/json"
  body : r.body = .ofText (Wire.visitQuery q).compact

/-- What comes of a question: the caller is judged first, then the visit. -/
def outcome (a : Authority) (p : Papers) (q : VisitQuery) (s : Surroundings) :
    Except Status (Option Decision) :=
  match a.guard.permit .authorizeHttp p s with
  | (.error e, _) => .error (.ofRejection e)
  | (.ok _, s) => ((a.judge q).run s).1

theorem Asks.readBody (h : Asks r q) : readBody r Wire.readVisitQuery = .ok q := by
  have hrun := (Wire.recovers_visitQuery q).run_compact (Wire.isNumberless_visitQuery q)
  have hjson : Http.isJson "application/json" := by decide
  rw [Authority.readBody, h.contentType, if_pos hjson, h.body, hrun, mapError_ok]

theorem Asks.serve (h : Asks r q) :
    (a.serve r s).1 =
      responseTo ((a.outcome (.ofRequest r) q s).map (Option.map Wire.visitReply)) := by
  have hserves : a.serves .authorizeHttp := by simp [serves, isCeremony]
  unfold outcome
  rcases hp : a.guard.permit .authorizeHttp (.ofRequest r) s with ⟨e | x, s'⟩
  · rw [serve_of_post h.method, route_operation h.path, if_pos hserves, call, Deed.bind_apply, hp]
    simp only [h.method, if_true]
    rfl
  · rw [serve_of_permit h.path hserves h.method hp, perform, respondTo_map h.readBody]

/-- The proxy and the authority understand each other: a question is read as it was asked, and the
outcome, whatever it is, is learned as it was found. All that they write to each other is read back
from its text. -/
theorem exchange_understood :
    (∀ r q, Asks r q → readBody r Wire.readVisitQuery = .ok q ∧
      (∀ a s, (serve a r s).1.map Client.receive =
        Client.learned (outcome a (.ofRequest r) q s)) ∧
      ∀ (handle : VisitQuery → Call (Option Decision)) s,
        let response := (respondTo r Wire.readVisitQuery fun q ↦ do
          return (← handle q).map Wire.visitReply) s
        response.1.map Client.receive = Client.learned ((handle q).run s).1) ∧
    (∀ (e : Status) d, Client.receive e.response ≠ .ok d) ∧
    (∀ q, Wire.readVisitQuery.run (.ofText (Wire.visitQuery q).compact) = .ok q) ∧
    (∀ h, Wire.readHeaderField.run (.ofText (Wire.headerField h).compact) = .ok h) ∧
    (∀ p, (Wire.readDestination 127).run (.ofText (Wire.destination p).compact) = .ok p) ∧
    (∀ d, (Wire.readDecision 127).run (.ofText (Wire.decision d).compact) = .ok d) ∧
    (∀ d, Wire.readVisitReply.run (.ofText (Wire.visitReply d).compact) = .ok d) ∧
    (∀ c, Wire.readCode.run (.ofText (Wire.code c).compact) = .ok c) ∧
    ∀ e, Wire.readStatus.run (.ofText (Wire.status e).compact) = .ok e := by
  refine ⟨fun r q h ↦ ⟨h.readBody, fun a s ↦ ?_, fun handle s ↦ ?_⟩, fun e d hd ↦ ?_, ?_⟩
  · rw [h.serve, Client.receive_responseTo]
  · intro response
    have hresponse : response.1 =
        responseTo (((handle q).run s).1.map (Option.map Wire.visitReply)) := by
      rw [show response = _ from respondTo_map h.readBody s]
    rw [hresponse, Client.receive_responseTo]
  · have hfailure := Client.receive_failure e
    rw [hd] at hfailure
    cases hfailure
  · exact ⟨fun q ↦ (Wire.recovers_visitQuery q).run_compact (Wire.isNumberless_visitQuery q),
      fun h ↦ (Wire.recovers_headerField h).run_compact rfl,
      fun p ↦ (Wire.recovers_destination 127 p).run_compact (Wire.isNumberless_destination p),
      fun d ↦ (Wire.recovers_decision 124 d).run_compact (Wire.isNumberless_decision d),
      fun d ↦ (Wire.recovers_visitReply d).run_compact (Wire.isNumberless_visitReply d),
      fun c ↦ (Wire.recovers_code c).run_compact rfl,
      fun e ↦ (Wire.recovers_status e).run_compact rfl⟩

theorem exchange_understood_with_quotes :
    let q : VisitQuery :=
      { method := "PUT"
        requestUri := "https://wiki.example/\"\\\u2028"
        cookies := ["k=\"ü\n", "portcullis-session=x"] }
    let r := calledByRoot .authorizeHttp (Wire.visitQuery q)
    let response := (gate.serve r ⟨⟨1, 0⟩, {}, ⟨{}, 0⟩⟩).1
    readBody r Wire.readVisitQuery = .ok q ∧
      response.map Client.receive = some (.ok (.deny
        ("no valid session in presented credentials (1 problem(s)): cookie " ++
          "\"portcullis-session\": session id is not valid base64: Invalid input length: 1")
        (.response "text/plain" "You are not logged in."))) := by
  intro q r response
  have hasks : Asks r q := ⟨rfl, rfl, by decide, rfl⟩
  obtain ⟨hbody, hread, -⟩ := exchange_understood.1 r q hasks
  refine ⟨hbody, (hread gate ⟨⟨1, 0⟩, {}, ⟨{}, 0⟩⟩).trans ?_⟩
  decide +kernel

end Authority

end Gatehouse
