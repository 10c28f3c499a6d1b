import Gatehouse.Credential
import Gatehouse.Store.Error

namespace Gatehouse

/-- The stored rows. Users and credentials stand in the order of their numbers. -/
structure State where
  users : List User := []
  sessions : List Session := []
  credentials : List Credential := []
  lastUser : Int := 0
  lastCredential : Int := 0
  deriving DecidableEq, Repr, Inhabited

namespace State

def findSession (s : State) (id : SessionId) : Option Session :=
  s.sessions.find? fun x ↦ x.id == id

def findUser (s : State) (id : UserId) : Option User := s.users.find? fun u ↦ u.id == id

def findUserByName (s : State) (username : String) : Option User :=
  s.users.find? fun u ↦ u.username == username

def findCredential (s : State) (id : CredentialId) : Option Credential :=
  s.credentials.find? fun c ↦ c.id == id

def missingUser (id : UserId) : StoreError :=
  .database (some "23503") s!"user {id.number} does not exist"

/-- Puts a session in the place of the one with its id, or behind all others. -/
def replaceSession (x : Session) : List Session → List Session
  | [] => [x]
  | y :: ys => if y.id = x.id then x :: ys else y :: replaceSession x ys

def putSession (s : State) (x : Session) : Except StoreError State :=
  match s.findUser x.user.id with
  | none => .error (missingUser x.user.id)
  | some _ => .ok { s with sessions := replaceSession x s.sessions }

def insertUser (s : State) (username : String) : Except StoreError (User × State) :=
  match s.findUserByName username with
  | some _ => .error (.userExists username)
  | none =>
    let user : User := ⟨⟨s.lastUser + 1⟩, username⟩
    .ok (user, { s with users := s.users ++ [user], lastUser := s.lastUser + 1 })

def listCredentials (s : State) (u : User) : List Credential :=
  s.credentials.filter fun c ↦ c.user.id == u.id && c.deletedAt.isNone

def insertCredential (s : State) (c : Credential) : Except StoreError (CredentialId × State) :=
  match s.findUser c.user.id with
  | none => .error (missingUser c.user.id)
  | some _ =>
    if s.credentials.any fun d ↦ d.credentialId == c.credentialId then
      .error (.database (some "23505") "credential id already registered")
    else
      let id : CredentialId := ⟨s.lastCredential + 1⟩
      .ok (id, { s with
        credentials := s.credentials ++ [{ c with id }]
        lastCredential := s.lastCredential + 1 })

def signCount (s : State) (id : CredentialId) : Option Nat :=
  match s.findCredential id with
  | some c => if c.deletedAt.isNone then some c.signCount else none
  | none => none

/-- Sets the counter of a credential that has not been deleted, and tells how many rows that
concerned. -/
def setSignCount (s : State) (id : CredentialId) (count : Nat) : Nat × State :=
  match s.signCount id with
  | none => (0, s)
  | some _ =>
    (1, { s with credentials := s.credentials.map fun c ↦
      if c.id = id then { c with signCount := count } else c })

theorem findSession_replaceSession (x : Session) (xs : List Session) (id : SessionId) :
    (replaceSession x xs).find? (fun y ↦ y.id == id) =
      if x.id = id then some x else xs.find? fun y ↦ y.id == id := by
  induction xs with
  | nil => by_cases h : x.id = id <;> simp [replaceSession, h]
  | cons y ys ih =>
    by_cases h : y.id = x.id
    · by_cases h' : x.id = id <;> simp [replaceSession, h, h']
    · by_cases h' : y.id = id
      · have h'' : ¬ x.id = id := fun e ↦ h (h'.trans e.symm)
        simp [replaceSession, h', h'']
        simp [← h', h]
      · simp [replaceSession, h, h', ih]

end State

end Gatehouse
