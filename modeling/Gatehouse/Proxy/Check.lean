import Gatehouse.Proxy.Client
import Gatehouse.Proxy.Inquiry
import Gatehouse.Proxy.Verdict

namespace Gatehouse

structure Reception where
  outcome : Except CallError Decision
  delay : Option Nat := some 0
  deriving Repr

/-- When a check has to be given up, in milliseconds from its start. -/
structure Limits where
  cancelled : Option Nat := none
  deadline : Option Nat := none
  deriving DecidableEq, Repr

inductive Interruption
  | deadline
  | cancelled
  deriving DecidableEq, Repr

inductive CheckError
  | unavailable (message : String)
  | interrupted (why : Interruption) (attempts : Nat) (failures : List String)
  deriving DecidableEq, Repr

def CheckError.message : CheckError → String
  | .unavailable message => s!"unavailable: {message}"
  | .interrupted why attempts failures =>
    let what := match why with
      | .deadline => "deadline exceeded"
      | .cancelled => "cancelled"
    s!"{what} after {attempts} tries: " ++ Text.quotedList failures

def CheckError.verdict : CheckError → Verdict
  | .unavailable message => .plain 503 message
  | .interrupted .. => .plain 500 "Failed to evaluate authorization decision."

namespace Limits

def reached (limit : Option Nat) (t : Nat) : Bool := limit.any (· ≤ t)

def stop? (l : Limits) (t : Nat) : Option Interruption :=
  if reached l.cancelled t then some .cancelled
  else if reached l.deadline t then some .deadline
  else none

/-- What interrupts something that ends at a time, or never, and when. Of things that happen at once
the deadline comes first, and the end last. -/
def interruption? (l : Limits) (ending : Option Nat) : Option (Interruption × Nat) :=
  let inTime (t : Nat) : Bool := ending.all (t ≤ ·)
  match l.deadline, l.cancelled with
  | some d, some c =>
    if d ≤ c then if inTime d then some (.deadline, d) else none
    else if inTime c then some (.cancelled, c) else none
  | some d, none => if inTime d then some (.deadline, d) else none
  | none, some c => if inTime c then some (.cancelled, c) else none
  | none, none => none

end Limits

/-- The end of a check: what came of it, how many calls were made, and when it was over. It is over
at no time if a call never ends and nothing sets a limit. -/
structure Checked where
  result : Except CheckError Decision
  calls : Nat
  waited : Nat
  deriving Repr

namespace Check

def pause : Nat := 10

def attempts : Nat := 3

def failureText (e : CallError) : String := s!"[call remote AuthorizeHTTP: {e.message}]"

def exhausted (failures : List String) : CheckError :=
  .unavailable (s!"authorization check failed after {attempts} tries: " ++
    Text.joined " " failures)

/-- Goes on at a time with call number `n`, after which `left` more are allowed. -/
def runFrom (l : Limits) (calls : Nat → Reception) :
    Nat → Nat → Nat → List String → Option Checked
  | left, n, t, failures =>
    match l.stop? t with
    | some why => some ⟨.error (.interrupted why (n + 1) failures), n, t⟩
    | none =>
      let call := calls n
      let ending := call.delay.map (t + ·)
      match if ending = some t then none else l.interruption? ending, ending with
      | some (why, t), _ => some ⟨.error (.interrupted why (n + 1) failures), n + 1, t⟩
      | none, none => none
      | none, some t =>
        match call.outcome with
        | .ok decision => some ⟨.ok decision, n + 1, t⟩
        | .error e =>
          let failures := failures ++ [failureText e]
          match left with
          | 0 => some ⟨.error (exhausted failures), n + 1, t⟩
          | left + 1 =>
            match l.interruption? (some (t + pause)) with
            | some (why, t) => some ⟨.error (.interrupted why (n + 1) failures), n + 1, t⟩
            | none => runFrom l calls left (n + 1) (t + pause) failures

def run (l : Limits) (calls : Nat → Reception) : Option Checked :=
  runFrom l calls (attempts - 1) 0 0 []

def verdict (usernameHeader : Option String) (c : Checked) : Verdict :=
  match c.result with
  | .ok decision => .ofDecision usernameHeader decision
  | .error e => e.verdict

end Check

end Gatehouse
