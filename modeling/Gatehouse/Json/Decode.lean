import Gatehouse.Json.Reader

namespace Gatehouse.Json

abbrev Decoder (α : Type) := Node → Except Flaw α

def here {α : Type} (r : Except Fault α) : Except Flaw α := r.mapError fun f ↦ ⟨[], f⟩

def under {α : Type} (s : Step) (r : Except Flaw α) : Except Flaw α := r.mapError (Flaw.at s)

namespace Decoder

variable {α β : Type}

def textFor (expected : String) : Decoder String
  | .text s => here s
  | n => here (n.mismatch expected)

def text : Decoder String := textFor "a string"

def bool : Decoder Bool
  | .bool b => .ok b
  | n => here (n.mismatch "a boolean")

def integer : Decoder Int
  | .number n => here do
    match ← n with
    | .whole i =>
      if i ≤ 9223372036854775807 then return i
      else throw (.invalidValue (.number (.whole i)) "i64")
    | x => throw (.invalidType (.number x) "i64")
  | n => here (n.mismatch "i64")

def natural (bound : Nat) (name : String) : Decoder Nat
  | .number n => here do
    match ← n with
    | .whole i =>
      if 0 ≤ i ∧ i.toNat < bound then return i.toNat
      else throw (.invalidValue (.number (.whole i)) name)
    | x => throw (.invalidType (.number x) name)
  | n => here (n.mismatch name)

def option (d : Decoder α) : Decoder (Option α)
  | .null => .ok none
  | n => some <$> d n

def map (f : α → β) (d : Decoder α) : Decoder β := fun n ↦ f <$> d n

def refine (f : α → Except String β) (d : Decoder α) : Decoder β := fun n ↦ do
  let a ← d n
  here ((f a).mapError .custom)

def items (d : Decoder α) : Nat → Items → Except Flaw (List α)
  | _, .done .closed => .ok []
  | _, .done (.broken onRead _ _) => here (.error onRead)
  | i, .more head rest => do
    let a ← under (.index i) (d head)
    let as ← items d (i + 1) rest
    return a :: as

def list (d : Decoder α) : Decoder (List α)
  | .list _ is => items d 0 is
  | n => here (n.mismatch "a sequence")

def any (depth : Nat) : Decoder Value := fun n ↦ here (n.value depth)

def choose (names : List String) (s : String) : Except Fault Nat :=
  match names.idxOf? s with
  | some i => .ok i
  | none => .error (.unknownVariant s names)

def withinQuotes : Fault → Bool
  | .ended .text | .invalidEscape | .controlCharacter | .loneSurrogate | .hexEscapeEnded => true
  | _ => false

/-- One of several names: alone, or as the only member of an object, with `null`. -/
def choice (names : List String) : Decoder Nat
  | .text s => here do choose names (← s)
  | .absent => here (.error (.ended .value))
  | .broken f _ => here (.error (if withinQuotes f then f else .valueExpected))
  | .object _ (.done .closed) => here (.error .valueExpected)
  | .object _ (.done (.broken _ _ onSurplus)) => here (.error onSurplus)
  | .object _ (.keyless first) => here (first.mismatch "variant identifier")
  | .object _ (.unpaired key f) => here do
    let _ ← choose names (← key)
    throw f
  | .object _ (.more key value rest) => here do
    let i ← choose names (← key)
    match value with
    | .null => pure ()
    | v => v.mismatch "unit"
    match rest with
    | .done .closed => return i
    | .done (.broken _ _ onSurplus) => throw onSurplus
    | _ => throw .valueExpected
  | _ => here (.error .valueExpected)

end Decoder

/-- The fields of a record, in the order of their declaration. While the record is read, `σ` holds
what has been read of it. -/
structure Fields (σ α : Type) where
  names : List (String × Bool)
  start : σ
  read : Nat → Node → σ → Except Flaw σ
  seen : Nat → σ → Bool
  finish : σ → Except Fault α

namespace Fields

variable {σ τ α β : Type}

def single (name : String) (needed : Bool) (d : Decoder α) (absent : Except Fault α) :
    Fields (Option α) α where
  names := [(name, needed)]
  start := none
  read _ n _ := some <$> d n
  seen _ s := s.isSome
  finish
    | some a => .ok a
    | none => absent

def required (name : String) (d : Decoder α) : Fields (Option α) α :=
  single name true d (.error (.missingField name))

def withDefault (name : String) (d : Decoder α) (a : α) : Fields (Option α) α :=
  single name false d (.ok a)

/-- A field that may be `null` or left out of an object. -/
def optional (name : String) (d : Decoder α) : Fields (Option (Option α)) (Option α) :=
  single name true d.option (.ok none)

def and (f : Fields σ α) (g : Fields τ β) : Fields (σ × τ) (α × β) where
  names := f.names ++ g.names
  start := (f.start, g.start)
  read i n s :=
    if i < f.names.length then do return (← f.read i n s.1, s.2)
    else do return (s.1, ← g.read (i - f.names.length) n s.2)
  seen i s := if i < f.names.length then f.seen i s.1 else g.seen (i - f.names.length) s.2
  finish s := do return (← f.finish s.1, ← g.finish s.2)

def map (h : α → β) (f : Fields σ α) : Fields σ β where
  names := f.names
  start := f.start
  read := f.read
  seen := f.seen
  finish s := h <$> f.finish s

def number? (f : Fields σ α) (name : String) : Option Nat := (f.names.map Prod.fst).idxOf? name

/-- Reads members in any order. Foreign ones are passed over, a field may come only once. -/
def ofMembers (f : Fields σ α) : σ → Members → Except Flaw σ
  | s, .done .closed => .ok s
  | _, .done (.broken onRead _ _) => here (.error onRead)
  | _, .keyless _ => here (.error .keyMustBeText)
  | s, .unpaired key fault => do
    let k ← here key
    if (f.number? k).any fun i ↦ f.seen i s then here (.error (.duplicateField k))
    else here (.error fault)
  | s, .more key value rest => do
    let k ← here key
    match f.number? k with
    | none =>
      under (.key k) (here value.skip)
      ofMembers f s rest
    | some i =>
      if f.seen i s then here (.error (.duplicateField k))
      else
        let s ← under (.key k) (f.read i value s)
        ofMembers f s rest

def plural (n : Nat) (thing : String) : String := if n = 1 then s!"1 {thing}" else s!"{n} {thing}s"

/-- The complaint about elements behind the last field; `n` is the number of all elements. -/
def surplus (form : Form) (fields n : Nat) : Fault :=
  match form with
  | .text => .trailingCharacters
  | .value => .invalidLength n "fewer elements in array"
  | .content => .invalidLength n (plural fields "element" ++ " in sequence")

def ofItems (f : Fields σ α) (name : String) (form : Form) :
    Nat → Nat → σ → Items → Except Flaw σ
  | 0, i, s, items =>
    match items with
    | .done .closed => .ok s
    | .done (.broken _ _ onSurplus) => here (.error onSurplus)
    | .more .. => here (.error (surplus form i (i + items.length)))
  | left + 1, i, s, items =>
    match items with
    | .done .closed =>
      match ((f.names.map Prod.snd).drop i).idxOf? true with
      | some j =>
        here (.error (.invalidLength (i + j)
          (name ++ " with " ++ plural (i + left + 1) "element")))
      | none => .ok s
    | .done (.broken onRead _ _) => here (.error onRead)
    | .more head rest => do
      let s ← under (.index i) (f.read i head s)
      ofItems f name form left (i + 1) s rest

def record (name : String) (f : Fields σ α) : Decoder α
  | .object _ ms => do
    let s ← f.ofMembers f.start ms
    here (f.finish s)
  | .list form is => do
    let s ← f.ofItems name form f.names.length 0 f.start is
    here (f.finish s)
  | n => here (n.mismatch name)

end Fields

/-- One alternative of a record whose shape is told by a tag. -/
structure Variant (α : Type) where
  tag : String
  decode : Decoder α

namespace Variant

variable {α : Type}

def ofTag (vs : List (Variant α)) (n : Node) : Except Flaw (Variant α) := do
  let s ←
    match n with
    | .text s => here s
    | n => here (n.mismatch "variant identifier")
  match vs.find? fun v ↦ v.tag = s with
  | some v => return v
  | none => here (.error (.unknownVariant s (vs.map Variant.tag)))

def split (tagName : String) (vs : List (Variant α)) (depth : Nat) :
    Option (Variant α) → List (String × Value) → Members →
      Except Flaw (Option (Variant α) × List (String × Value))
  | v, others, .done .closed => .ok (v, others)
  | _, _, .done (.broken onRead _ _) => here (.error onRead)
  | _, _, .keyless _ => here (.error .keyMustBeText)
  | v, _, .unpaired key fault => do
    let k ← here key
    if k = tagName ∧ v.isSome then here (.error (.duplicateField k)) else here (.error fault)
  | v, others, .more key value rest => do
    let k ← here key
    if k = tagName then
      if v.isSome then here (.error (.duplicateField k))
      else
        let w ← ofTag vs value
        split tagName vs depth (some w) others rest
    else
      let x ← here (value.value depth)
      split tagName vs depth v (others ++ [(k, x)]) rest

/-- A record that is an object with a tag among its members, or a list that starts with the tag.
All of it is read before its shape is looked at. -/
def decoder (tagName name : String) (vs : List (Variant α)) (depth : Nat) : Decoder α
  | .object _ ms => do
    match ← split tagName vs depth none [] ms with
    | (some v, others) => v.decode (.object .content (Members.ofValues .content others))
    | (none, _) => here (.error (.missingField tagName))
  | .list _ (.more head rest) => do
    let v ← ofTag vs head
    let others ← here (rest.values depth)
    v.decode (.list .content (Items.ofValues .content others))
  | .list _ (.done .closed) => here (.error (.missingField tagName))
  | .list _ (.done (.broken onRead _ _)) => here (.error onRead)
  | n => here (n.mismatch s!"internally tagged enum {name}")

end Variant

def Decoder.run {α : Type} (d : Decoder α) (o : Octets) : Except Flaw α := do
  let doc := Document.read o
  let a ← d doc.root
  if doc.trailing then here (.error .trailingCharacters)
  return a

/-- Decodes a value that has been read before. Objects are met in the order of their names. -/
def Decoder.ofValue {α : Type} (d : Decoder α) (v : Value) : Except Flaw α :=
  d (Node.ofValue .value v.sorted)

end Gatehouse.Json
