import Gatehouse.Proofs.Authority.Principals
import Gatehouse.Proofs.Authority.Routes
import Gatehouse.Proofs.Authority.Upgrades

namespace Gatehouse.Authority

open Http (Request Response)

variable {a : Authority} {r : Request} {s s' : Surroundings} {x : Session} {v : Verifier}
  {b : EnrollmentFinish}

section Key

def awaitsKey : Session := { namesake with taints := .ofList [Taints.enrollment] }

def invitedRows : State := { users := [namesake.user], sessions := [awaitsKey], lastUser := 1 }

theorem run_invited : gate.run (namesakeEnrolled.take 2) = invitedRows := by decide +kernel

end Key

end Gatehouse.Authority
