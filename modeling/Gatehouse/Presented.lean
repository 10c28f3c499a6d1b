import Gatehouse.Session.Id
import Gatehouse.Text.Blank
import Gatehouse.Text.Quoted

namespace Gatehouse

inductive HeaderProblem
  | malformed
  | unknownScheme (scheme : String)
  | invalidSessionId (reason : SessionIdError)
  deriving DecidableEq, Repr

def HeaderProblem.message : HeaderProblem → String
  | .malformed => "authorization value did not contain a type and a token"
  | .unknownScheme scheme => "unknown authorization type " ++ Text.quoted scheme
  | .invalidSessionId reason => SessionId.scheme ++ " credential: " ++ reason.message

/-- Whether a value with this problem belongs to somebody else and may be passed on. -/
def HeaderProblem.isForwardable : HeaderProblem → Bool
  | .invalidSessionId _ => false
  | _ => true

structure Cookie where
  name : String
  value : String
  deriving DecidableEq, Repr

namespace Cookie

def ofPiece? (piece : List Char) : Option Cookie :=
  match Text.cut '=' piece with
  | some (name, value) =>
    match Text.trim name with
    | [] => none
    | c :: cs => some ⟨String.ofList (c :: cs), String.ofList (Text.trim value)⟩
  | none => none

def parse (value : String) : List Cookie := (Text.pieces ';' value.toList).filterMap ofPiece?

def text (c : Cookie) : String := c.name ++ "=" ++ c.value

end Cookie

structure UnusedHeader where
  value : String
  reason : HeaderProblem
  deriving DecidableEq, Repr

structure UnusedCookie where
  cookie : Cookie
  reason : Option SessionIdError
  deriving DecidableEq, Repr

/-- What was found: session ids, from headers first and then from cookies, and the rest. -/
structure Presented where
  sessions : List SessionId
  unusedHeaders : List UnusedHeader
  unusedCookies : List UnusedCookie
  deriving DecidableEq, Repr

/-- The session id of an `Authorization` value: the scheme, one blank, and the id. -/
def parseAuthorization (value : String) : Except HeaderProblem SessionId :=
  match Text.cut ' ' value.toList with
  | none => .error .malformed
  | some (scheme, token) =>
    if String.ofList scheme = SessionId.scheme then
      (SessionId.ofText (String.ofList token)).mapError .invalidSessionId
    else .error (.unknownScheme (String.ofList scheme))

def separate {α β γ : Type} (f : α → Except β γ) (as : List α) : List γ × List β :=
  (as.filterMap fun a ↦ (f a).toOption,
    as.filterMap fun a ↦ match f a with | .error e => some e | .ok _ => none)

namespace Presented

def sortHeader (value : String) : Except UnusedHeader SessionId :=
  (parseAuthorization value).mapError fun p ↦ ⟨value, p⟩

def sortCookie (cookieName : String) (c : Cookie) : Except UnusedCookie SessionId :=
  if c.name = cookieName then (SessionId.ofText c.value).mapError fun e ↦ ⟨c, some e⟩
  else .error ⟨c, none⟩

def extract (cookieName : String) (authorization cookies : List String) : Presented :=
  let (fromHeaders, unusedHeaders) := separate sortHeader authorization
  let (fromCookies, unusedCookies) :=
    separate (sortCookie cookieName) (cookies.flatMap Cookie.parse)
  ⟨fromHeaders ++ fromCookies, unusedHeaders, unusedCookies⟩

/-- Whether there is anything that could be meant for us. -/
def offersCredentials (p : Presented) : Bool :=
  !p.sessions.isEmpty || !p.unusedHeaders.isEmpty || p.unusedCookies.any fun c ↦ c.reason.isSome

def passthrough (p : Presented) : List Cookie :=
  (p.unusedCookies.filter fun c ↦ c.reason.isNone).map UnusedCookie.cookie

end Presented

end Gatehouse
