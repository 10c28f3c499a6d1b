import Gatehouse.Proofs.Authority.Requests

namespace Gatehouse

open Http (Request)

structure Arrival where
  request : Request
  now : Instant
  entropy : Entropy := {}
  verifier : Option Verifier := none
  failingCommits : Nat := 0

namespace Arrival

def surroundings (v : Arrival) (s : State) : Surroundings :=
  ⟨v.now, v.entropy, ⟨s, v.failingCommits⟩⟩

def Fresh (v : Arrival) (s : State) : Prop :=
  ∀ id, (SessionId.draw v.entropy).1 = .ok id → s.findSession id = none

end Arrival

namespace Authority

variable (a : Authority)

def facing (v : Arrival) : Authority := { a with verifier := v.verifier }

def receive (s : State) (v : Arrival) : State :=
  ((a.facing v).serve v.request (v.surroundings s)).2.database.committed

/-- The rows after some requests, of which the first one finds nothing stored. -/
def run (vs : List Arrival) : State := vs.foldl a.receive {}

/-- No id is drawn that a stored session has. -/
def DrawsFresh (vs : List Arrival) : Prop :=
  ∀ earlier v later, vs = earlier ++ v :: later → v.Fresh (a.run earlier)

theorem run_concat (vs : List Arrival) (v : Arrival) :
    a.run (vs ++ [v]) = a.receive (a.run vs) v := by
  rw [run, List.foldl_append]
  rfl

theorem receive_outcome (s : State) (v : Arrival) :
    (a.facing v).Outcome v.request (v.surroundings s) (a.receive s v) :=
  (a.facing v).serve_outcome v.request (v.surroundings s)

variable {a}

def gate : Authority where
  guard := { rootPassword := some "x" }
  key := ⟨1 :: List.replicate 31 0, rfl, rfl⟩
  links := ⟨⟨"https", some { host := "id.example" }, .rooted [""], none, none⟩, "id.example"⟩

def calledByRoot (o : Operation) (body : Json.Value) : Request where
  method := "POST"
  target.place := some { path := o.path }
  headers := [("authorization", "root x"), ("content-type", "application/json")]
  body := .ofText body.compact

def registration : Arrival where
  request := calledByRoot .editUser (Wire.editUser ⟨0, "ann"⟩)
  now := ⟨1, 0⟩

def enrollment : Arrival where
  request := calledByRoot .generateEnrollmentLink (Wire.enrollmentTarget ⟨0, "ann"⟩)
  now := ⟨2, 0⟩
  entropy.source := ⟨fun _ ↦ 7, 0⟩

/-- What a browser states about a ceremony in a session. A list is shorter than an object. -/
def statement (c : Ceremony) (id : SessionId) : Octets :=
  .ofText ("[\"" ++ c.kind ++ "\",\"") ++ Base64.symbols .urlSafe id.octets ++
    .ofText "\",\"https://id.example\"]"

/-- Root makes a user, and a session for the user's enrollment. -/
def invitation : List Arrival := [registration, enrollment]

end Authority

end Gatehouse
