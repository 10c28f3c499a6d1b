import Gatehouse.Json.Fault
import Gatehouse.Json.Value

namespace Gatehouse.Json

/-- In which form a document came. It decides the complaint about elements that are too many. -/
inductive Form
  | text
  | value
  | content
  deriving DecidableEq, Repr

/-- How the elements of a list or the members of an object end: properly, or with a fault. The
fault has a wording for those who read on, one for those who pass over the whole, and one for those
who have all that they wanted. -/
inductive Ending
  | closed
  | broken (onRead onSkip onSurplus : Fault)

mutual

/-- A JSON text as a tree, as far as it goes. A text that breaks somewhere gives a tree that ends
there with the fault, and a leaf that is written badly holds its fault, so that a reader meets
faults of the text and faults of the shape in the order in which they stand. -/
inductive Node
  | null
  | bool (b : Bool)
  | number (n : Except Fault Number)
  | text (s : Except Fault String)
  | list (form : Form) (items : Items)
  | object (form : Form) (members : Members)
  | broken (onRead onSkip : Fault)
  /-- The text ends where a value should stand. -/
  | absent

inductive Items
  | done (e : Ending)
  | more (head : Node) (rest : Items)

inductive Members
  | done (e : Ending)
  | more (key : Except Fault String) (value : Node) (rest : Members)
  /-- A name that no colon follows. -/
  | unpaired (key : Except Fault String) (fault : Fault)
  | keyless (first : Node)

end

instance : Inhabited Node := ⟨.null⟩

mutual

def Node.skip : Node → Except Fault Unit
  | .list _ items => items.skip
  | .object _ members => members.skip
  | .broken _ onSkip => .error onSkip
  | .absent => .error (.ended .value)
  | .null | .bool _ | .number _ | .text _ => .ok ()

def Items.skip : Items → Except Fault Unit
  | .done .closed => .ok ()
  | .done (.broken _ onSkip _) => .error onSkip
  | .more head rest => do head.skip; rest.skip

def Members.skip : Members → Except Fault Unit
  | .done .closed => .ok ()
  | .done (.broken _ onSkip _) => .error onSkip
  | .more _ value rest => do value.skip; rest.skip
  | .unpaired _ fault => .error fault
  | .keyless _ => .error .keyMustBeText

end

mutual

def Node.value (depth : Nat) : Node → Except Fault Value
  | .null => .ok .null
  | .bool b => .ok (.bool b)
  | .number n => n.map .number
  | .text s => s.map .text
  | .list _ items => if depth ≤ 1 then .error .tooDeep else .list <$> items.values (depth - 1)
  | .object _ members =>
    if depth ≤ 1 then .error .tooDeep else .object <$> members.values (depth - 1)
  | .broken onRead _ => .error onRead
  | .absent => .error (.ended .value)

def Items.values (depth : Nat) : Items → Except Fault (List Value)
  | .done .closed => .ok []
  | .done (.broken onRead _ _) => .error onRead
  | .more head rest => do
    let v ← head.value depth
    let vs ← rest.values depth
    return v :: vs

def Members.values (depth : Nat) : Members → Except Fault (List (String × Value))
  | .done .closed => .ok []
  | .done (.broken onRead _ _) => .error onRead
  | .more key value rest => do
    let k ← key
    let v ← value.value depth
    let ms ← rest.values depth
    return (k, v) :: ms
  | .unpaired key fault => do
    let _ ← key
    throw fault
  | .keyless _ => .error .keyMustBeText

end

mutual

def Node.ofValue (form : Form) : Value → Node
  | .null => .null
  | .bool b => .bool b
  | .number n => .number (.ok n)
  | .text s => .text (.ok s)
  | .list vs => .list form (Items.ofValues form vs)
  | .object ms => .object form (Members.ofValues form ms)

def Items.ofValues (form : Form) : List Value → Items
  | [] => .done .closed
  | v :: vs => .more (Node.ofValue form v) (Items.ofValues form vs)

def Members.ofValues (form : Form) : List (String × Value) → Members
  | [] => .done .closed
  | (k, v) :: ms => .more (.ok k) (Node.ofValue form v) (Members.ofValues form ms)

end

def Items.length : Items → Nat
  | .done _ => 0
  | .more _ rest => rest.length + 1

/-- What is found instead of something expected. A scalar is read first, so that its own faults
come out. -/
def Node.found : Node → Except Fault Found
  | .null => .ok .null
  | .bool b => .ok (.bool b)
  | .number n => n.map .number
  | .text s => s.map .text
  | .list .. => .ok .sequence
  | .object .. => .ok .map
  | .broken onRead _ => .error onRead
  | .absent => .error (.ended .value)

def Node.mismatch {α : Type} (expected : String) (n : Node) : Except Fault α := do
  throw (.invalidType (← n.found) expected)

structure Document where
  root : Node
  trailing : Bool

end Gatehouse.Json
