import Gatehouse.Http.Target
import Gatehouse.Text.Order
import Gatehouse.Url.Host

namespace Gatehouse.Http

abbrev Fields := List (String × String)

def isTokenChar (c : Char) : Bool :=
  c.isAlphanum ||
    ['!', '#', '$', '%', '&', '\'', '*', '+', '-', '.', '^', '_', '\x60', '|', '~'].contains c

def isToken (s : String) : Bool := s ≠ "" && s.toList.all isTokenChar

def isFieldText (s : String) : Bool :=
  s.toList.all fun c ↦ c = '\t' || (32 ≤ c.toNat && c.toNat ≠ 127)

/-- Whether a value is one of visible ASCII characters. Others are never looked into. -/
def isReadable (s : String) : Bool :=
  s.toList.all fun c ↦ c = '\t' || (32 ≤ c.toNat && c.toNat < 127)

structure Request where
  method : String
  target : Target
  headers : Fields := []
  body : Octets := []
  peer : Option String := none
  deriving Repr

structure Response where
  status : Nat
  headers : Fields := []
  body : String := ""
  deriving DecidableEq, Repr

/-- A header field as it is sent, if it can be. Names are in lower case. -/
def field? (name value : String) : Option (String × String) :=
  if isToken name && isFieldText value then some (Text.lower name, value) else none

namespace Request

def make? (method target : String) (headers : Fields) (body : Octets) (peer : Option String) :
    Option Request := do
  let t ← Target.ofText? target
  let fields ← headers.mapM fun (name, value) ↦ field? name value
  if isToken method then some ⟨method, t, fields, body, peer⟩ else none

def readable (r : Request) : Fields := r.headers.filter fun f ↦ isReadable f.2

def values (r : Request) (name : String) : List String :=
  r.readable.filterMap fun f ↦ if f.1 = name then some f.2 else none

def first (r : Request) (name : String) : String :=
  match Text.lookup? name r.headers with
  | some v => if isReadable v then v else ""
  | none => ""

end Request

namespace Response

def text (status : Nat) (body : String) : Response :=
  ⟨status, [("content-type", "text/plain; charset=utf-8")], body⟩

def bodiless (r : Response) : Response := { r with body := "" }

/-- Sends the browser on. A place that cannot be sent is an error. -/
def redirect (url : String) : Response :=
  if isFieldText url then ⟨307, [("location", url)], ""⟩
  else text 500 "failed to parse header value"

end Response

def addressOfPeer (s : String) : String :=
  match (Text.cut ':' s.toList.reverse).map fun (_, a) ↦ a.reverse with
  | none => s
  | some a =>
    let inner := a.filter fun c ↦ c ≠ '[' && c ≠ ']'
    match Url.ipv6? (inner.takeWhile (· ≠ '%')) with
    | some [0, 0, 0, 0, 0, 65535, x, y] => "::ffff:" ++ Url.ipv4Text (65536 * x + y)
    | some gs => Url.ipv6Text gs
    | none => String.ofList inner

end Gatehouse.Http
