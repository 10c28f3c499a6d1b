import Gatehouse.Json.Number
import Gatehouse.Text.Order

namespace Gatehouse.Json

inductive Value
  | null
  | bool (b : Bool)
  | number (n : Number)
  | text (s : String)
  | list (vs : List Value)
  | object (members : List (String × Value))
  deriving Inhabited

namespace Value

def whole (n : Int) : Value := .number (.whole n)

def natural (n : Nat) : Value := .number (.whole n)

def texts (ss : List String) : Value := .list (ss.map .text)

def optional {α : Type} (f : α → Value) : Option α → Value
  | some a => f a
  | none => .null

def get? (name : String) : Value → Option Value
  | .object members => Text.lookup? name members
  | _ => none

end Value

/-- The escape of a character within quotes. Only the quote, the backslash and the controls below
the space have one. -/
def escaped (c : Char) : List Char :=
  match c with
  | '"' => ['\\', '"']
  | '\\' => ['\\', '\\']
  | '\x08' => ['\\', 'b']
  | '\x0c' => ['\\', 'f']
  | '\n' => ['\\', 'n']
  | '\r' => ['\\', 'r']
  | '\t' => ['\\', 't']
  | c =>
    let n := c.toNat
    if n < 32 then ['\\', 'u', '0', '0', Octets.hexDigit (n / 16), Octets.hexDigit (n % 16)]
    else [c]

def quote (s : String) : List Char := '"' :: s.toList.flatMap escaped ++ ['"']

mutual

def Value.render : Value → List Char
  | .null => "null".toList
  | .bool true => "true".toList
  | .bool false => "false".toList
  | .number n => n.render.toList
  | .text s => quote s
  | .list vs => '[' :: renderList vs ++ [']']
  | .object ms => '\x7b' :: renderMembers ms ++ ['\x7d']

def renderList : List Value → List Char
  | [] => []
  | [v] => v.render
  | v :: w :: vs => v.render ++ ',' :: renderList (w :: vs)

def renderMembers : List (String × Value) → List Char
  | [] => []
  | [(k, v)] => quote k ++ ':' :: v.render
  | (k, v) :: m :: ms => quote k ++ ':' :: v.render ++ ',' :: renderMembers (m :: ms)

end

def Value.compact (v : Value) : String := String.ofList v.render

mutual

def Value.sorted : Value → Value
  | .list vs => .list (sortedList vs)
  | .object ms => .object (sortedMembers ms)
  | v => v

def sortedList : List Value → List Value
  | [] => []
  | v :: vs => v.sorted :: sortedList vs

/-- Of several members of one name the last is kept. -/
def sortedMembers : List (String × Value) → List (String × Value)
  | [] => []
  | (k, v) :: ms =>
    Text.alterSorted k (fun later ↦ later.getD v.sorted) (sortedMembers ms)

end

end Gatehouse.Json
