import Gatehouse.Store.Policy

namespace Gatehouse

inductive Failure
  | retryable (e : StoreError)
  | fatal (e : StoreError)
  deriving DecidableEq, Repr

namespace Failure

def error : Failure → StoreError
  | .retryable e | .fatal e => e

def ofError (e : StoreError) : Failure := if e.isRetryable then .retryable e else .fatal e

def isRetryable : Failure → Bool
  | .retryable _ => true
  | .fatal _ => false

end Failure

inductive Stage
  | begin
  | work
  | commit
  deriving DecidableEq, Repr

def Stage.name : Stage → String
  | .begin => "begin"
  | .work => "work"
  | .commit => "commit"

structure UnitError where
  attempts : Nat
  stage : Stage
  error : StoreError
  deriving DecidableEq, Repr

def UnitError.message (e : UnitError) : String :=
  s!"transaction failed during {e.stage.name} after {e.attempts} attempt(s): {e.error.message}"

/-- How often to try, and how many milliseconds to wait between two tries. -/
structure RetryPolicy where
  maxAttempts : Nat := 3
  delay : Nat := 10
  deriving DecidableEq, Repr, Inhabited

/-- What a store answers to the three calls of a unit of work; `σ` is all that they may change. -/
structure Backend (σ : Type) where
  begin : Access → σ → Except StoreError Unit × σ
  commit : σ → Except StoreError Unit × σ
  rollback : σ → Except StoreError Unit × σ

structure Run (σ α : Type) where
  result : Except UnitError α
  final : σ
  waited : Nat

namespace Backend

variable {σ α : Type}

/-- One try. A rollback cannot change how it ends. -/
def attempt (b : Backend σ) (access : Access) (work : σ → Except Failure α × σ) (s : σ) :
    Except (Stage × Failure) α × σ :=
  match b.begin access s with
  | (.error e, s) => (.error (.begin, .ofError e), s)
  | (.ok (), s) =>
    match work s with
    | (.ok a, s) =>
      match b.commit s with
      | (.ok (), s) => (.ok a, s)
      | (.error e, s) => (.error (.commit, .ofError e), s)
    | (.error f, s) => (.error (.work, f), (b.rollback s).2)

/-- Try number `n`, which `left` more may follow. -/
def runFrom (b : Backend σ) (access : Access) (delay : Nat)
    (work : Nat → σ → Except Failure α × σ) : Nat → Nat → Nat → σ → Run σ α
  | left, n, waited, s =>
    match b.attempt access (work n) s with
    | (.ok a, s) => ⟨.ok a, s, waited⟩
    | (.error (stage, f), s) =>
      match left, f with
      | left + 1, .retryable _ => runFrom b access delay work left (n + 1) (waited + delay) s
      | _, f => ⟨.error ⟨n, stage, f.error⟩, s, waited⟩

/-- Runs a unit of work, of which `work n` is done in try number `n`, from one on. -/
def run (b : Backend σ) (access : Access) (policy : RetryPolicy)
    (work : Nat → σ → Except Failure α × σ) (s : σ) : Run σ α :=
  b.runFrom access policy.delay work (policy.maxAttempts - 1) 1 0 s

end Backend

structure Connection where
  database : Database
  current : Option Transaction := none

namespace Connection

variable {α : Type}

def begin (access : Access) (c : Connection) : Except StoreError Unit × Connection :=
  (.ok (), { c with current := some (c.database.begin access) })

def commit (c : Connection) : Except StoreError Unit × Connection :=
  match c.current with
  | none => (.error .finished, c)
  | some t =>
    let (r, t, d) := t.commit c.database
    (r, ⟨d, some t⟩)

def rollback (c : Connection) : Except StoreError Unit × Connection :=
  match c.current with
  | none => (.error .finished, c)
  | some t =>
    let (r, t) := t.rollback
    (r, { c with current := some t })

def perform (w : Work α) (c : Connection) : Except StoreError α × Connection :=
  match c.current with
  | none => (.error .finished, c)
  | some t =>
    let (r, t) := w t
    (r, { c with current := some t })

def backend : Backend Connection := ⟨begin, commit, rollback⟩

end Connection

namespace Database

variable {α : Type}

def run (d : Database) (access : Access) (policy : RetryPolicy) (w : Work α) :
    Except UnitError α × Database :=
  let work (_ : Nat) (c : Connection) : Except Failure α × Connection :=
    let (r, c) := c.perform w
    (r.mapError Failure.ofError, c)
  let r := Connection.backend.run access policy work ⟨d, none⟩
  (r.result, r.final.database)

def read (d : Database) (policy : RetryPolicy) (w : Work α) : Except UnitError α × Database :=
  d.run .readOnly policy w

def write (d : Database) (policy : RetryPolicy) (w : Work α) : Except UnitError α × Database :=
  d.run .readWrite policy w

end Database

end Gatehouse
