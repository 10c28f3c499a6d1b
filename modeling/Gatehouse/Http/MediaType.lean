import Gatehouse.Http.Message

namespace Gatehouse.Http

def readQuoted (s : List Char) : Option (List Char) :=
  let inside (c : Char) : Bool := 31 < c.toNat && c.toNat ≠ 127
  match s with
  | [] => none
  | c :: s =>
    match s.span (· ≠ '"') with
    | (value, '"' :: rest) =>
      if (c :: value).all inside then
        match rest.dropWhile (· = ' ') with
        | [] => some []
        | ';' :: rest => some rest
        | _ => none
      else none
    | _ => none

/-- Whether parameters are well written: names and values with equality signs between them, divided
by semicolons. `fuel` bounds their number. -/
def areParameters : Nat → List Char → Bool
  | 0, s => s.isEmpty
  | fuel + 1, s =>
    match s.dropWhile (· = ' ') with
    | [] => true
    | s =>
      match s.span isTokenChar with
      | (_ :: _, '=' :: '"' :: rest) =>
        match readQuoted rest with
        | some rest => areParameters fuel rest
        | none => false
      | (_ :: _, '=' :: rest) =>
        match rest.span isTokenChar with
        | (_ :: _, ';' :: rest) => areParameters fuel rest
        | (_, rest) => rest.isEmpty
      | _ => false

def cutSuffix (s : List Char) : List Char × List Char :=
  match Text.cut '+' s.reverse with
  | some (suffix, front) =>
    if front.isEmpty then (s, []) else (front.reverse, suffix.reverse)
  | none => (s, [])

/-- Whether a `Content-Type` value names JSON, or a format that is written in JSON. -/
def isJson (value : String) : Bool :=
  let s := value.toList.map Char.toLower
  match s.span isTokenChar with
  | (kind, '/' :: rest) =>
    let (subtype, rest) := rest.span isTokenChar
    let wellWritten := match rest with
      | [] => true
      | ';' :: rest => areParameters (rest.length + 1) rest
      | _ => false
    let (name, suffix) := cutSuffix subtype
    kind = "application".toList && wellWritten &&
      (name = "json".toList || suffix = "json".toList)
  | _ => false

end Gatehouse.Http
