import Gatehouse.Proxy.Check

namespace Gatehouse

namespace Check

structure Moment where
  time : Nat
  calledOff : Bool
  deriving DecidableEq, Repr

def Moment.stop? (deadline : Option Nat) (m : Moment) : Option Interruption :=
  if m.calledOff then some .cancelled
  else if Limits.reached deadline m.time then some .deadline
  else none

inductive Point
  | ready
  | calling (call since : Nat)
  | pausing (call since : Nat)
  | over (c : Checked)
  deriving Repr

/-- A check under way, with the errors noted so far and when calls were made and found to have
ended. -/
structure Progress where
  point : Point := .ready
  failures : List String := []
  made : List Nat := []
  ended : List Nat := []
  deriving Repr

namespace Progress

def finish (p : Progress) (t : Nat) (result : Except CheckError Decision) : Progress :=
  { p with point := .over ⟨result, p.made.length, t⟩ }

def abandon (p : Progress) (t : Nat) (why : Interruption) (tries : Nat) : Progress :=
  p.finish t (.error (.interrupted why tries p.failures))

def hear (calls : Nat → Reception) (n t : Nat) (p : Progress) : Progress :=
  let p := { p with ended := p.ended ++ [t] }
  match (calls n).outcome with
  | .ok decision => p.finish t (.ok decision)
  | .error e =>
    let p := { p with failures := p.failures ++ [failureText e] }
    if n + 1 = attempts then p.finish t (.error (exhausted p.failures))
    else { p with point := .pausing n t }

def listen (calls : Nat → Reception) (n since t : Nat) (p : Progress) : Progress :=
  if (calls n).delay.any (since + · ≤ t) then p.hear calls n t
  else { p with point := .calling n since }

def call (calls : Nat → Reception) (n t : Nat) (p : Progress) : Progress :=
  { p with made := p.made ++ [t] }.listen calls n t t

/-- One look. It asks first whether the check has been called off, then whether the deadline has
passed, and only then for what is waited for. -/
def advance (deadline : Option Nat) (calls : Nat → Reception) (m : Moment) (p : Progress) :
    Progress :=
  match p.point, m.stop? deadline with
  | .over _, _ => p
  | .ready, some why => p.abandon m.time why 1
  | .calling n _, some why => p.abandon m.time why (n + 1)
  | .pausing n _, some why => p.abandon m.time why (n + 1)
  | .ready, none => p.call calls 0 m.time
  | .calling n since, none => p.listen calls n since m.time
  | .pausing n since, none => if since + pause ≤ m.time then p.call calls (n + 1) m.time else p

def awaits? (calls : Nat → Reception) (p : Progress) : Option Nat :=
  match p.point with
  | .ready => some 0
  | .calling n since => (calls n).delay.map (since + ·)
  | .pausing _ since => some (since + pause)
  | .over _ => none

/-- A look that does not come late: nothing that would wake the check lies before it. -/
structure Prompt (l : Limits) (calls : Nat → Reception) (p : Progress) (m : Moment) : Prop where
  awaited : ∀ t, p.awaits? calls = some t → m.time ≤ t
  deadline : ∀ t, l.deadline = some t → m.time ≤ t
  cancelled : ∀ t, l.cancelled = some t → m.time ≤ t

end Progress

/-- A check can only be found to be called off once it has been, and then it must. What happens at
the very time of a look may come before the look, or after it. -/
structure Moment.Possible (l : Limits) (m : Moment) : Prop where
  of_calledOff : m.calledOff = true → ∃ t, l.cancelled = some t ∧ t ≤ m.time
  of_cancelled : ∀ t, l.cancelled = some t → t < m.time → m.calledOff = true

/-- How far a check can have come at its latest look, where the looks may have come at any time that
suits. One that is over is not looked at again. -/
inductive Course (l : Limits) (calls : Nat → Reception) (Suits : Progress → Moment → Prop) :
    Moment → Progress → Prop
  | first {m : Moment} : m.Possible l → Suits {} m →
      Course l calls Suits m (Progress.advance l.deadline calls m {})
  | next {m m' : Moment} {p : Progress} : Course l calls Suits m p → (∀ c, p.point ≠ .over c) →
      m.time ≤ m'.time → (m.calledOff = true → m'.calledOff = true) → m'.Possible l → Suits p m' →
      Course l calls Suits m' (p.advance l.deadline calls m')

end Check

end Gatehouse
