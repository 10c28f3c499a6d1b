import Gatehouse.Proofs.Authority.Principals
import Gatehouse.Proofs.Authority.Routes
import Gatehouse.Proofs.Authority.Upgrades

namespace Gatehouse.Authority

open Surroundings (Same)
open Http (Request Response)

variable {a : Authority} {r : Request} {s s' refused : Surroundings} {x : Session} {v : Verifier}

theorem serve_finishLogin {b : LoginFinish} (hp : r.target.path = Operation.finishLogin.path)
    (hm : r.method = "POST") (hv : a.verifier = some v)
    (hx : a.guard.permit .finishLogin (.ofRequest r) s = (.ok x, s'))
    (hb : readBody r Wire.readLoginFinish = .ok b) :
    a.serve r s = (responseTo (((a.finishLogin v x b).run s').1.map (Option.map Wire.ceremonyDone)),
      ((a.finishLogin v x b).run s').2) := by
  have ho : a.serves .finishLogin := by rw [serves, hv]; rfl
  rw [serve_of_permit hp ho hm hx, perform]
  simp only [hv]
  exact respondTo_map hb s'

section Comeback

def comeback : SessionId := ⟨List.replicate 64 8⟩

def loginStarted : Arrival where
  request := {
    method := "POST"
    target.place := some { path := Operation.startLogin.path }
    headers := [("content-type", "application/json")]
    body := .ofText "[\"root\"]" }
  now := ⟨4, 0⟩
  entropy.source := ⟨fun _ ↦ 8, 0⟩
  verifier := some keyMaker

def comingBack : Session :=
  ⟨comeback, namesake.user, ⟨4, 0⟩, ⟨64804, 0⟩, .ofList [Taints.startLogin], {}⟩

def comebackRows : State := namesakeRows.withSession comingBack

def keyAsserted : LoginFinish := ⟨⟨[1], statement .login comeback, [], []⟩, ""⟩

def loginFinished : Request where
  method := "POST"
  target.place := some { path := Operation.finishLogin.path }
  headers := [("authorization", comeback.authorization), ("content-type", "application/json")]
  body := .ofText "[[\"AQ\",\"" ++ Base64.symbols .urlSafe (statement .login comeback) ++
    .ofText "\",\"\",\"\"]]"

theorem run_loginStarted : gate.run (namesakeEnrolled ++ [loginStarted]) = comebackRows := by
  rw [run_concat, run_namesakeEnrolled]
  decide +kernel

def keyGate : Authority := { gate with verifier := some keyMaker }

def amidComeback : Surroundings := ⟨⟨5, 0⟩, {}, ⟨comebackRows, 0⟩⟩

theorem tellsTime_loginStarted : TellsTime (namesakeEnrolled ++ [loginStarted]) := by
  intro w hw
  simp only [namesakeEnrolled, List.cons_append, List.nil_append, List.mem_cons,
    List.not_mem_nil, or_false] at hw
  rcases hw with rfl | rfl | rfl | rfl
  all_goals exact Instant.isReading_of_second (by decide) (by decide)

end Comeback

end Gatehouse.Authority
