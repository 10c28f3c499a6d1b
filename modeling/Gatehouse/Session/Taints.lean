import Gatehouse.Text.Order

namespace Gatehouse

/-- A set of names: they are kept in order, each of them once. -/
@[ext]
structure Taints where
  names : List String
  ascending : Text.Ascending names
  deriving DecidableEq, Repr

namespace Taints

def anonymous : String := "anonymous"

def enrollment : String := "enrollment"

def startLogin : String := "start_login"

def empty : Taints := ⟨[], .nil⟩

instance : Inhabited Taints := ⟨empty⟩

def ofList (names : List String) : Taints := ⟨Text.sortedSet names, Text.ascending_sortedSet names⟩

def contains (t : Taints) (name : String) : Bool := t.names.contains name

def remove (t : Taints) (name : String) : Taints :=
  ⟨t.names.filter (· != name), t.ascending.filter _⟩

def isEmpty (t : Taints) : Bool := t.names.isEmpty

def size (t : Taints) : Nat := t.names.length

def untolerated (t tolerated : Taints) : List String :=
  t.names.filter fun n ↦ !tolerated.contains n

/-- Nothing if all are tolerated, and otherwise those that are not. -/
def check (t tolerated : Taints) : Except (List String) Unit :=
  match t.untolerated tolerated with
  | [] => .ok ()
  | remaining => .error remaining

def listed (names : List String) : String := "[" ++ Text.joined ", " names ++ "]"

def describe (t : Taints) : String := listed t.names

def complaint (remaining : List String) : String :=
  "operation does not tolerate session taints " ++ listed remaining

theorem contains_ofList {names : List String} {name : String} :
    (ofList names).contains name ↔ name ∈ names := by
  rw [contains, List.contains_iff_mem, ofList, Text.mem_sortedSet]

theorem contains_remove (t : Taints) (name other : String) :
    (t.remove name).contains other ↔ t.contains other ∧ other ≠ name := by
  simp [contains, remove]

theorem remove_of_not_contains {t : Taints} {name : String} (h : t.contains name = false) :
    t.remove name = t := by
  ext1
  rw [remove, List.filter_eq_self]
  rintro n hn
  simp only [bne_iff_ne, ne_eq]
  rintro rfl
  simp [contains, hn] at h

theorem mem_untolerated {t tolerated : Taints} {name : String} :
    name ∈ t.untolerated tolerated ↔ t.contains name ∧ tolerated.contains name = false := by
  simp [untolerated, contains]

end Taints

end Gatehouse
