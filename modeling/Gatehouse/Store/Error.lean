import Gatehouse.Text.Quoted

namespace Gatehouse

inductive StoreError
  | invalidSessionId
  | sessionNotFound
  | sessionExpired
  | sessionNotYetValid
  | invalidSession (reason : String)
  | userNotFound
  | userExists (username : String)
  | emptyField (field : String)
  | credentialNotFound
  | invalidCredential (reason : String)
  | counterNotIncreased (stored presented : Nat)
  | unexpectedRowCount (expected actual : Nat)
  | finished
  | retryable (reason : String)
  | database (code : Option String) (message : String)
  | corrupt (reason : String)
  deriving DecidableEq, Repr

namespace StoreError

def message : StoreError → String
  | .invalidSessionId => "invalid session id"
  | .sessionNotFound => "session not found"
  | .sessionExpired => "session expired"
  | .sessionNotYetValid => "session not yet valid"
  | .invalidSession reason => s!"invalid session: {reason}"
  | .userNotFound => "user not found"
  | .userExists username => "user " ++ Text.quoted username ++ " already exists"
  | .emptyField field => s!"{field} must not be empty"
  | .credentialNotFound => "credential not found"
  | .invalidCredential reason => s!"invalid credential: {reason}"
  | .counterNotIncreased stored presented =>
    s!"signature counter did not increase: stored {stored}, presented {presented}"
  | .unexpectedRowCount expected actual => s!"expected {expected} row(s) affected, got {actual}"
  | .finished => "transaction has already been committed or rolled back"
  | .retryable reason => s!"retryable: {reason}"
  | .database (some code) message => s!"database error (SQLSTATE {code}): {message}"
  | .database none message => s!"database error: {message}"
  | .corrupt reason => s!"corrupt row: {reason}"

def code? : StoreError → Option String
  | .database code _ => code
  | _ => none

/-- The classes of codes that may not come again: conflicts between transactions, and an
administrator's intervention. -/
def isPassing (code : String) : Bool :=
  ['4', '0'].isPrefixOf code.toList || ['5', '7'].isPrefixOf code.toList

/-- Whether the same work may succeed if it is run again. -/
def isRetryable : StoreError → Bool
  | .finished | .retryable _ => true
  | .database (some code) _ => isPassing code
  | _ => false

end StoreError

end Gatehouse
