import Gatehouse.Decimal
import Gatehouse.Url

namespace Gatehouse.Url

def isSpecial (scheme : String) : Bool := scheme = "file" || (defaultPort? scheme).isSome

def isSlash (special : Bool) (c : Char) : Bool := c = '/' || (special && c = '\\')

def endsPath (c : Char) : Bool := c = '?' || c = '#'

def encodeText (encoded : Char → Bool) (s : List Char) : String :=
  String.ofList (percentEncode encoded s)

def tidied (s : String) : List Char :=
  let outer (c : Char) : Bool := c.toNat ≤ 32
  let front := s.toList.dropWhile outer
  ((front.reverse.dropWhile outer).reverse).filter fun c ↦ !(['\t', '\n', '\r'].contains c)

def inScheme (c : Char) : Bool := c.isAlphanum || ['+', '-', '.'].contains c

def readScheme (s : List Char) : Option (String × List Char) :=
  match s with
  | [] => none
  | c :: _ =>
    if c.isAlpha then
      match s.span inScheme with
      | (scheme, ':' :: rest) => some (String.ofList (scheme.map Char.toLower), rest)
      | _ => none
    else none

def cutLast (sep : Char) (s : List Char) : Option (List Char × List Char) :=
  (Text.cut sep s.reverse).map fun (back, front) ↦ (front.reverse, back.reverse)

/-- A host goes up to a colon outside brackets; `inside` tells whether a bracket is open. -/
def spanHost : Bool → List Char → List Char × List Char
  | _, [] => ([], [])
  | inside, c :: s =>
    if c = ':' ∧ !inside then ([], c :: s)
    else
      let (host, rest) := spanHost (if c = '[' then true else if c = ']' then false else inside) s
      (c :: host, rest)

/-- A port. A backslash behind its digits ends it. -/
def readPort (scheme : String) (s : List Char) : Except Error (Option Nat × List Char) := do
  let (digits, rest) := s.span Char.isDigit
  let n := Decimal.valueOf digits
  if 65535 < n then throw .invalidPort
  match rest with
  | [] | '\\' :: _ => pure ()
  | _ => throw .invalidPort
  return (if digits = [] ∨ defaultPort? scheme = some n then none else some n, rest)

def readUserinfo (s : List Char) : String × String :=
  match Text.cut ':' s with
  | some (name, password) => (encodeText inUserinfo name, encodeText inUserinfo password)
  | none => (encodeText inUserinfo s, "")

def readAuthority (scheme : String) (s : List Char) : Except Error (Authority × List Char) := do
  let special := isSpecial scheme
  let (whole, rest) := s.span fun c ↦ !(isSlash special c || endsPath c)
  let (userinfo, hostAndPort) := (cutLast '@' whole).getD ([], whole)
  if whole = ['@'] ∧ rest ≠ [] then throw .emptyHost
  let (username, password) := readUserinfo userinfo
  let (hostText, afterHost) := spanHost false hostAndPort
  if hostText = [] ∧ (special ∨ afterHost ≠ [] ∨ username ≠ "" ∨ password ≠ "") then
    throw .emptyHost
  let host ← if special then specialHost hostText else opaqueHost hostText
  match afterHost with
  | ':' :: portText =>
    let (port, left) ← readPort scheme portText
    return (⟨username, password, host, port⟩, left ++ rest)
  | _ => return (⟨username, password, host, none⟩, rest)

def points? : List Char → Option Nat
  | [] => some 0
  | '.' :: s => (points? s).map (· + 1)
  | '%' :: '2' :: 'e' :: s | '%' :: '2' :: 'E' :: s => (points? s).map (· + 1)
  | _ => none

def isDrive : List Char → Bool
  | [c, d] => c.isAlpha && (d = ':' || d = '|')
  | _ => false

def leave : List String → List String
  | s :: done => if isDrive s.toList then s :: done else done
  | [] => []

/-- Takes the segments one by one; one point stays where it is, and two lead back. -/
def resolve (isFile : Bool) : List String → List (List Char) → List String
  | done, [] => done.reverse
  | done, s :: ss =>
    let ended := if ss.isEmpty then [""] else []
    match points? s with
    | some 1 => resolve isFile (ended ++ done) ss
    | some 2 => resolve isFile (ended ++ leave done) ss
    | _ =>
      match isFile && done.isEmpty && isDrive s, s with
      | true, c :: _ => resolve isFile [String.ofList [c, ':']] ss
      | _, s => resolve isFile (encodeText inPath s :: done) ss

def segments (special : Bool) (s : List Char) : List (List Char) :=
  Text.pieces '/' (s.map fun c ↦ if isSlash special c then '/' else c)

def readSegments (scheme : String) (s : List Char) : List String :=
  let isFile := scheme = "file"
  let ss := resolve isFile [] (segments (isSpecial scheme) s)
  if isFile then
    match ss.dropWhile (· = "") with
    | [] => [""]
    | rest => rest
  else ss

def readPath (scheme : String) (s : List Char) : Path :=
  match s with
  | [] => .rooted (if isSpecial scheme then [""] else [])
  | c :: rest => .rooted (readSegments scheme (if isSlash (isSpecial scheme) c then rest else s))

def complete (scheme : String) (authority : Option Authority) (path : List Char → Path)
    (s : List Char) : Url :=
  let (front, back) := s.span (!endsPath ·)
  let p := path front
  let encoded := if isSpecial scheme then inSpecialQuery else inQuery
  match back with
  | '?' :: back =>
    match Text.cut '#' back with
    | some (query, fragment) =>
      ⟨scheme, authority, p, some (encodeText encoded query), some (encodeText inFragment fragment)⟩
    | none => ⟨scheme, authority, p, some (encodeText encoded back), none⟩
  | '#' :: fragment => ⟨scheme, authority, p, none, some (encodeText inFragment fragment)⟩
  | _ => ⟨scheme, authority, p, none, none⟩

/-- A file on a host, which is usually not named. A drive is always one of this host. -/
def readFile (s : List Char) : Except Error Url := do
  let folder (host : String) (s : List Char) : Url :=
    let u := complete "file" none (readPath "file") s
    let isLocal := match u.path with
      | .rooted (first :: _) => isDrive first.toList
      | _ => false
    { u with authority := some { host := if isLocal then "" else host } }
  match s with
  | a :: b :: rest =>
    if isSlash true a ∧ isSlash true b then
      let (name, left) := rest.span fun c ↦ !(isSlash true c || endsPath c)
      if name = [] then return folder "" left
      else if isDrive name then return folder "" rest
      else
        let host ← specialHost name
        return folder (if host = "localhost" then "" else host) left
    else return folder "" s
  | s => return folder "" s

def ofText (text : String) : Except Error Url := do
  match readScheme (tidied text) with
  | none => throw .relative
  | some (scheme, s) =>
    if scheme = "file" then readFile s
    else if isSpecial scheme then
      let (authority, rest) ← readAuthority scheme (s.dropWhile (isSlash true))
      return complete scheme (some authority) (readPath scheme) rest
    else
      match s with
      | '/' :: '/' :: s =>
        let (authority, rest) ← readAuthority scheme s
        return complete scheme (some authority) (readPath scheme) rest
      | '/' :: s => return complete scheme none (fun p ↦ .rooted (readSegments scheme p)) s
      | s => return complete scheme none (fun p ↦ .rootless (encodeText isControl p)) s

end Gatehouse.Url
