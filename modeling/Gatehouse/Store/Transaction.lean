import Gatehouse.Store.State

namespace Gatehouse

inductive Access
  | readOnly
  | readWrite
  deriving DecidableEq, Repr

/-- What is stored for good, and how many commits are still to fail. -/
structure Database where
  committed : State := {}
  failingCommits : Nat := 0
  deriving Repr, Inhabited

/-- A transaction works on a copy of what is stored, which takes the place of the stored rows when
it is committed. Once ended it refuses everything. -/
structure Transaction where
  working : State
  access : Access
  isOpen : Bool := true
  deriving Repr

def Database.begin (d : Database) (access : Access) : Transaction := ⟨d.committed, access, true⟩

namespace Transaction

def conflict : StoreError :=
  .database (some "40001") "could not serialize access due to concurrent update"

def readOnlyError : StoreError :=
  .database (some "25006") "cannot write in a read-only transaction"

/-- Makes the copy the stored state, if the transaction is open and no failure is due. Either way
the transaction has ended. -/
def commit (t : Transaction) (d : Database) : Except StoreError Unit × Transaction × Database :=
  if t.isOpen then
    match d.failingCommits with
    | n + 1 => (.error conflict, { t with isOpen := false }, { d with failingCommits := n })
    | 0 => (.ok (), { t with isOpen := false }, { d with committed := t.working })
  else (.error .finished, t, d)

def rollback (t : Transaction) : Except StoreError Unit × Transaction :=
  if t.isOpen then (.ok (), { t with isOpen := false }) else (.error .finished, t)

end Transaction

/-- Work within a transaction, which may fail at any point. -/
def Work (α : Type) := Transaction → Except StoreError α × Transaction

namespace Work

variable {α β : Type}

def pure (a : α) : Work α := fun t ↦ (.ok a, t)

def bind (w : Work α) (f : α → Work β) : Work β := fun t ↦
  match w t with
  | (.ok a, t) => f a t
  | (.error e, t) => (.error e, t)

instance : Monad Work where
  pure := Work.pure
  bind := Work.bind

def fail (e : StoreError) : Work α := fun t ↦ (.error e, t)

@[simp] theorem pure_apply (a : α) (t : Transaction) : (Pure.pure a : Work α) t = (.ok a, t) := rfl

@[simp] theorem fail_apply (e : StoreError) (t : Transaction) :
    (fail e : Work α) t = (.error e, t) := rfl

theorem bind_apply (w : Work α) (f : α → Work β) (t : Transaction) :
    (w >>= f) t = match w t with
      | (.ok a, t) => f a t
      | (.error e, t) => (.error e, t) := rfl

def read (f : State → α) : Work α := fun t ↦
  if t.isOpen then (.ok (f t.working), t) else (.error .finished, t)

def write (f : State → Except StoreError (α × State)) : Work α := fun t ↦
  if t.isOpen then
    match t.access with
    | .readOnly => (.error Transaction.readOnlyError, t)
    | .readWrite =>
      match f t.working with
      | .ok (a, s) => (.ok a, { t with working := s })
      | .error e => (.error e, t)
  else (.error .finished, t)

def findSession (id : SessionId) : Work (Option Session) := read fun s ↦ s.findSession id

def putSession (x : Session) : Work Unit := write fun s ↦ (s.putSession x).map fun s ↦ ((), s)

def findUser (id : UserId) : Work (Option User) := read fun s ↦ s.findUser id

def findUserByName (username : String) : Work (Option User) :=
  read fun s ↦ s.findUserByName username

def insertUser (username : String) : Work User := write fun s ↦ s.insertUser username

def listCredentials (u : User) : Work (List Credential) := read fun s ↦ s.listCredentials u

def insertCredential (c : Credential) : Work CredentialId := write fun s ↦ s.insertCredential c

def signCount (id : CredentialId) : Work (Option Nat) := read fun s ↦ s.signCount id

def setSignCount (id : CredentialId) (count : Nat) : Work Nat :=
  write fun s ↦ .ok (s.setSignCount id count)

end Work

end Gatehouse
