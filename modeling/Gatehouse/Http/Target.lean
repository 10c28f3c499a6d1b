import Gatehouse.Octets
import Gatehouse.Text.Pieces

namespace Gatehouse.Http

structure Place where
  path : String
  query : Option String := none
  deriving DecidableEq, Repr

structure Target where
  authority : String := ""
  place : Option Place
  deriving DecidableEq, Repr

namespace Target

def path (t : Target) : String :=
  match t.place with
  | some p => if p.path = "" then "/" else p.path
  | none => ""

def query (t : Target) : String := ((t.place.map Place.query).join).getD ""

def text (t : Target) : String :=
  match t.place with
  | some ⟨path, some query⟩ => path ++ "?" ++ query
  | some ⟨path, none⟩ => if path = "" then "/" else path
  | none => "/"

def inPath (c : Char) : Bool :=
  126 < c.toNat || (32 < c.toNat && !(['#', '<', '>', '?', '\x60'].contains c))

def inQuery (c : Char) : Bool :=
  126 < c.toNat || (32 < c.toNat && !(['"', '#', '<', '>'].contains c))

/-- Reads path and query; a fragment is passed over. -/
def readPlace (s : List Char) : Option Place :=
  let (path, rest) := s.span fun c ↦ c ≠ '?' && c ≠ '#'
  let query := match rest with
    | '?' :: rest => some (rest.takeWhile (· ≠ '#'))
    | _ => none
  if path.all inPath && (query.getD []).all inQuery then
    some ⟨String.ofList path, query.map String.ofList⟩
  else none

/-- What has been seen of a host: colons since the last sign that takes them back, and whether a
bracket has been opened, and closed, and whether there is a percent sign outside. -/
structure Seen where
  colons : Nat := 0
  opened : Bool := false
  closed : Bool := false
  percent : Bool := false

def inHost (c : Char) : Bool :=
  c.isAlphanum ||
    ['!', '$', '&', '\'', '(', ')', '*', '+', ',', '-', '.', ';', '=', '_', '~'].contains c

def see (t : Seen) (c : Char) : Option Seen :=
  if c = ':' then if 8 ≤ t.colons then none else some { t with colons := t.colons + 1 }
  else if c = '[' then if t.percent || t.opened then none else some { t with opened := true }
  else if c = ']' then
    if !t.opened || t.closed then none
    else some { t with closed := true, colons := 0, percent := false }
  else if c = '@' then some { t with colons := 0, percent := false }
  else if c = '%' then some { t with percent := true }
  else if inHost c then some t
  else none

def isAuthority (s : List Char) : Bool :=
  match s.foldlM see {} with
  | some t => t.opened == t.closed && t.colons ≤ 1 && !t.percent && s.getLast? ≠ some '@'
  | none => false

def inScheme (c : Char) : Bool := c.isAlphanum || ['+', '-', '.'].contains c

def afterScheme? (s : List Char) : Option (List Char × List Char) :=
  let (scheme, rest) := s.span inScheme
  (Text.after? [':', '/', '/'] rest).map fun rest ↦ (scheme, rest)

def ofText? (text : String) : Option Target :=
  let s := text.toList
  if s = [] ∨ 65534 < text.utf8ByteSize then none
  else if s = ['*'] then some ⟨"", some ⟨text, none⟩⟩
  else if s.head? = some '/' then (readPlace s).map fun p ↦ ⟨"", some p⟩
  else
    match afterScheme? s with
    | none => if isAuthority s then some ⟨text, none⟩ else none
    | some (scheme, rest) =>
      let (host, rest) := rest.span fun c ↦ c ≠ '/' && c ≠ '?' && c ≠ '#'
      if scheme.length ≤ 64 ∧ host ≠ [] ∧ isAuthority host then
        (readPlace rest).map fun p ↦ ⟨String.ofList host, some p⟩
      else none

end Target

end Gatehouse.Http
