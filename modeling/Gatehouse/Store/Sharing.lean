import Gatehouse.Store.Transaction

namespace Gatehouse

inductive Reading : Type → Type
  | session (id : SessionId) : Reading (Option Session)
  | user (id : UserId) : Reading (Option User)
  | userByName (username : String) : Reading (Option User)
  | credentials (u : User) : Reading (List Credential)
  | signCount (id : CredentialId) : Reading (Option Nat)

inductive Writing : Type → Type
  | session (x : Session) : Writing Unit
  | user (username : String) : Writing User
  | credential (c : Credential) : Writing CredentialId
  | signCount (id : CredentialId) (count : Nat) : Writing Nat

variable {α : Type}

namespace Reading

def of : Reading α → State → α
  | .session id, s => s.findSession id
  | .user id, s => s.findUser id
  | .userByName username, s => s.findUserByName username
  | .credentials u, s => s.listCredentials u
  | .signCount id, s => s.signCount id

def work : Reading α → Work α
  | .session id => .findSession id
  | .user id => .findUser id
  | .userByName username => .findUserByName username
  | .credentials u => .listCredentials u
  | .signCount id => .signCount id

theorem work_eq (r : Reading α) : r.work = .read r.of := by cases r <;> rfl

end Reading

namespace Writing

def on : Writing α → State → Except StoreError (α × State)
  | .session x, s => (s.putSession x).map fun s ↦ ((), s)
  | .user username, s => s.insertUser username
  | .credential c, s => s.insertCredential c
  | .signCount id count, s => .ok (s.setSignCount id count)

def work : Writing α → Work α
  | .session x => .putSession x
  | .user username => .insertUser username
  | .credential c => .insertCredential c
  | .signCount id count => .setSignCount id count

theorem work_eq (w : Writing α) : w.work = .write w.on := by cases w <;> rfl

end Writing

structure SharedStore where
  database : Database := {}
  locked : Bool := false
  transactions : List (Option Transaction) := []

namespace SharedStore

/-- What is done to a shared store, by whichever client. Transactions have numbers, from zero on. -/
inductive Event : Type 1
  | begin (access : Access)
  | read {α : Type} (i : Nat) (r : Reading α) (answer : Except StoreError α)
  | write {α : Type} (i : Nat) (w : Writing α) (answer : Except StoreError α)
  | commit (i : Nat) (answer : Except StoreError Unit)
  | rollback (i : Nat) (answer : Except StoreError Unit)
  | drop (i : Nat)
  | failCommits (n : Nat)

def transaction? (s : SharedStore) (i : Nat) : Option Transaction := s.transactions[i]?.join

def put (s : SharedStore) (i : Nat) (t : Option Transaction) : SharedStore :=
  { s with transactions := s.transactions.set i t }

def opened (s : SharedStore) (access : Access) : SharedStore :=
  { s with locked := true, transactions := s.transactions ++ [some (s.database.begin access)] }

/-- Who holds the lock is the open transaction, and nobody once that has ended. -/
def release (s : SharedStore) (t : Transaction) : SharedStore :=
  { s with locked := s.locked && !t.isOpen }

/-- A transaction is begun when the lock can be had. Everything else can be done at any time. -/
inductive Step : SharedStore → Event → SharedStore → Prop
  | begin {s : SharedStore} (access : Access) : s.locked = false →
      Step s (.begin access) (s.opened access)
  | read {α : Type} {s : SharedStore} {i : Nat} {t : Transaction} (r : Reading α) :
      s.transaction? i = some t → Step s (.read i r (r.work t).1) (s.put i (some (r.work t).2))
  | write {α : Type} {s : SharedStore} {i : Nat} {t : Transaction} (w : Writing α) :
      s.transaction? i = some t → Step s (.write i w (w.work t).1) (s.put i (some (w.work t).2))
  | commit {s : SharedStore} {i : Nat} {t : Transaction} : s.transaction? i = some t →
      Step s (.commit i (t.commit s.database).1) { (s.release t).put i
        (some (t.commit s.database).2.1) with database := (t.commit s.database).2.2 }
  | rollback {s : SharedStore} {i : Nat} {t : Transaction} : s.transaction? i = some t →
      Step s (.rollback i t.rollback.1) ((s.release t).put i (some t.rollback.2))
  | drop {s : SharedStore} {i : Nat} {t : Transaction} : s.transaction? i = some t →
      Step s (.drop i) ((s.release t).put i none)
  | failCommits {s : SharedStore} (n : Nat) :
      Step s (.failCommits n) { s with database.failingCommits := n }

inductive Run (d : Database) : List Event → SharedStore → Prop
  | start : Run d [] { database := d }
  | step {es : List Event} {e : Event} {s s' : SharedStore} :
      Run d es s → Step s e s' → Run d (es ++ [e]) s'

end SharedStore

end Gatehouse
