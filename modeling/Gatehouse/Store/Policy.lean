import Gatehouse.Store.Transaction
import Gatehouse.Text.Blank

namespace Gatehouse

/-- The rule for counters: a counter follows another one if it is greater, or if one of the two is
zero, as authenticators without counters always present zero. -/
def counterFollows (stored presented : Nat) : Bool :=
  stored = 0 || presented = 0 || decide (stored < presented)

/-- Moves a counter on to the presented one, if that may follow the stored one. `set` writes it and
tells how many rows that concerned. -/
def advanceCounter {σ : Type} (stored : σ → Except StoreError (Option Nat) × σ)
    (set : Nat → σ → Except StoreError Nat × σ) (presented : Nat) (s : σ) :
    Except StoreError Unit × σ :=
  match stored s with
  | (.error e, s) => (.error e, s)
  | (.ok none, s) => (.error .credentialNotFound, s)
  | (.ok (some n), s) =>
    if counterFollows n presented then
      match set presented s with
      | (.error e, s) => (.error e, s)
      | (.ok rows, s) =>
        if rows = 1 then (.ok (), s) else (.error (.unexpectedRowCount 1 rows), s)
    else (.error (.counterNotIncreased n presented), s)

namespace Work

def demand {α : Type} (e : StoreError) : Option α → Work α
  | some a => pure a
  | none => fail e

def lookupSession (id : SessionId) (now : Instant) : Work Session :=
  if id.isZero then fail .invalidSessionId
  else do
    let x ← demand .sessionNotFound (← findSession id)
    if x.expiresAt.atMost now then fail .sessionExpired
    else if now.before x.createdAt then fail .sessionNotYetValid
    else return x

def upsertSession (x : Session) : Work Unit :=
  if x.id.isZero then fail (.invalidSession "session id is zero")
  else if x.user.id.isAssigned then putSession x
  else fail (.invalidSession s!"user id {x.user.id.number} cannot own a session")

/-- Ends a session now. One that has ended stays as it is. -/
def revokeSession (id : SessionId) (reason : String) (now : Instant) : Work Unit :=
  if id.isZero then fail .invalidSessionId
  else do
    let x ← demand .sessionNotFound (← findSession id)
    match x.revoke reason now with
    | (true, y) => putSession y
    | (false, _) => return ()

def untaintSession (id : SessionId) (taint : String) (now : Instant) : Work Session := do
  let x ← lookupSession id now
  match x.untaint taint with
  | (true, y) => do
    putSession y
    return y
  | (false, y) => return y

def lookupUser (id : UserId) : Work User := do demand .userNotFound (← findUser id)

def lookupUserByName (username : String) : Work User := do
  demand .userNotFound (← findUserByName username)

def createUser (username : String) : Work User :=
  let name := Text.trimmed username
  if name = "" then fail (.emptyField "username")
  else do
    match ← findUserByName name with
    | some _ => fail (.userExists name)
    | none => insertUser name

/-- Stores a credential that is new, whole, and somebody's. -/
def addCredential (c : Credential) : Work CredentialId :=
  if c.id.number ≠ 0 then fail (.invalidCredential "credential already has an id")
  else if c.credentialId = [] then fail (.emptyField "credential_id")
  else if c.publicKey = [] then fail (.emptyField "public_key")
  else if !c.user.id.isAssigned then
    fail (.invalidCredential "credential must belong to a stored user")
  else if c.createdBy.isZero then
    fail (.invalidCredential "credential must be created by a stored session")
  else insertCredential c

def checkSignCount (c : Credential) : Work Unit :=
  advanceCounter (signCount c.id) (setSignCount c.id) c.signCount

end Work

end Gatehouse
