import Gatehouse.Json.Number
import Gatehouse.Text.Pieces
import Gatehouse.Text.Quoted

namespace Gatehouse.Json

inductive Unfinished
  | list
  | object
  | text
  | value
  deriving DecidableEq, Repr

inductive Found
  | null
  | bool (b : Bool)
  | number (n : Number)
  | text (s : String)
  | sequence
  | map
  deriving Repr

inductive Fault
  | ended (within : Unfinished)
  | colonExpected
  | listCommaOrEndExpected
  | objectCommaOrEndExpected
  | wordExpected
  | valueExpected
  | invalidEscape
  | invalidNumber
  | numberOutOfRange
  | invalidUnicode
  | controlCharacter
  | keyMustBeText
  | loneSurrogate
  | hexEscapeEnded
  | trailingComma
  | trailingCharacters
  | tooDeep
  | missingField (name : String)
  | duplicateField (name : String)
  | invalidType (found : Found) (expected : String)
  | invalidValue (found : Found) (expected : String)
  | invalidLength (n : Nat) (expected : String)
  | unknownVariant (name : String) (expected : List String)
  | custom (text : String)
  deriving Repr

/-- The three kinds of fault: the text ends too early, it is no JSON, or it is JSON of the wrong
shape. -/
inductive Category
  | eof
  | grammar
  | data
  deriving DecidableEq, Repr

def Fault.category : Fault → Category
  | .ended _ => .eof
  | .missingField _ | .duplicateField _ | .invalidType .. | .invalidValue .. | .invalidLength ..
  | .unknownVariant .. | .custom _ => .data
  | _ => .grammar

def Unfinished.describe : Unfinished → String
  | .list => "a list"
  | .object => "an object"
  | .text => "a string"
  | .value => "a value"

def ticked (s : String) : String := "`" ++ s ++ "`"

def Found.describe : Found → String
  | .null => "null"
  | .bool b => "boolean " ++ ticked (if b then "true" else "false")
  | .number (.whole n) => "integer " ++ ticked (toString n)
  | .number (.real x) => "floating point " ++ ticked (Number.render (.real x))
  | .text s => "string " ++ Text.quoted s
  | .sequence => "sequence"
  | .map => "map"

def oneOf : List String → String
  | [a] => ticked a
  | [a, b] => ticked a ++ " or " ++ ticked b
  | cs => "one of " ++ Text.joined ", " (cs.map ticked)

def Fault.message : Fault → String
  | .ended w => "EOF while parsing " ++ w.describe
  | .colonExpected => "expected " ++ ticked ":"
  | .listCommaOrEndExpected => "expected " ++ ticked "," ++ " or " ++ ticked "]"
  | .objectCommaOrEndExpected => "expected " ++ ticked "," ++ " or " ++ ticked "\x7d"
  | .wordExpected => "expected ident"
  | .valueExpected => "expected value"
  | .invalidEscape => "invalid escape"
  | .invalidNumber => "invalid number"
  | .numberOutOfRange => "number out of range"
  | .invalidUnicode => "invalid unicode code point"
  | .controlCharacter =>
    "control character (\\u0000-\\u001F) found while parsing a string"
  | .keyMustBeText => "key must be a string"
  | .loneSurrogate => "lone leading surrogate in hex escape"
  | .hexEscapeEnded => "unexpected end of hex escape"
  | .trailingComma => "trailing comma"
  | .trailingCharacters => "trailing characters"
  | .tooDeep => "recursion limit exceeded"
  | .missingField f => "missing field " ++ ticked f
  | .duplicateField f => "duplicate field " ++ ticked f
  | .invalidType found expected => s!"invalid type: {found.describe}, expected {expected}"
  | .invalidValue found expected => s!"invalid value: {found.describe}, expected {expected}"
  | .invalidLength n expected => s!"invalid length {n}, expected {expected}"
  | .unknownVariant v expected => "unknown variant " ++ ticked v ++ ", expected " ++ oneOf expected
  | .custom text => text

inductive Step
  | key (name : String)
  | index (i : Nat)
  deriving DecidableEq, Repr

/-- A fault, and the place of the value in which it lies. -/
structure Flaw where
  path : List Step
  fault : Fault
  deriving Repr

def Flaw.at (s : Step) (f : Flaw) : Flaw := { f with path := s :: f.path }

def renderPath : Bool → List Step → String
  | _, [] => ""
  | first, .key name :: rest => (if first then name else "." ++ name) ++ renderPath false rest
  | _, .index i :: rest => s!"[{i}]" ++ renderPath false rest

def Flaw.message (f : Flaw) : String :=
  if f.path = [] then f.fault.message else renderPath true f.path ++ ": " ++ f.fault.message

end Gatehouse.Json
