import Gatehouse.Entropy
import Gatehouse.Store.Retry

namespace Gatehouse

structure Surroundings where
  now : Instant
  entropy : Entropy := {}
  database : Database := {}

/-- Something that is done: it may draw octets and change what is stored, and ends with an `α`. -/
abbrev Deed (α : Type) := StateM Surroundings α

namespace Deed

variable {α : Type}

def now : Deed Instant := fun s ↦ (s.now, s)

def drawing (f : Entropy → α × Entropy) : Deed α := fun s ↦
  let (a, entropy) := f s.entropy
  (a, { s with entropy })

def transact (access : Access) (retry : RetryPolicy) (w : Instant → Work α) :
    Deed (Except UnitError α) := fun s ↦
  let (r, database) := s.database.run access retry (w s.now)
  (r, { s with database })

def read (retry : RetryPolicy) (w : Instant → Work α) : Deed (Except UnitError α) :=
  transact .readOnly retry w

def write (retry : RetryPolicy) (w : Instant → Work α) : Deed (Except UnitError α) :=
  transact .readWrite retry w

end Deed

end Gatehouse
