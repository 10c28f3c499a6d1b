import Gatehouse.Text.Quoted
import Gatehouse.Url.Reading

namespace Gatehouse

inductive BaseError
  | invalid (reason : Url.Error)
  | unsupportedScheme (scheme : String)
  | missingHost
  deriving DecidableEq, Repr

def BaseError.reason : BaseError → String
  | .invalid reason => reason.message
  | .unsupportedScheme scheme => "unsupported scheme " ++ Text.quoted scheme
  | .missingHost => "missing host"

def Url.ofWebServer (text : String) : Except BaseError Url := do
  let u ← (Url.ofText text).mapError .invalid
  if u.scheme = "http" ∨ u.scheme = "https" then return u.asFolder
  else throw (.unsupportedScheme u.scheme)

structure Links where
  base : Url
  host : String
  deriving DecidableEq, Repr

namespace Links

def ofText (text : String) : Except BaseError Links := do
  let base ← Url.ofWebServer text
  match base.host? with
  | some host => if host = "" then throw .missingHost else return ⟨base, host⟩
  | none => throw .missingHost

/-- Scheme, host and port, by which browsers know a site. -/
def origin (l : Links) : String :=
  l.base.scheme ++ "://" ++ (l.base.authority.map Url.Authority.address).getD ""

def loginPage (l : Links) : String := l.base.text ++ "#/login"

/-- The login page, which then leads on to the sealed place. -/
def loginPageWith (l : Links) (token : String) : String :=
  l.base.text ++ "#/login?redirect=" ++ token

def enrollmentPage (l : Links) (token : String) : String := l.base.text ++ "#/enroll/" ++ token

def setCookie (l : Links) (token : String) : String := l.base.text ++ "set-cookie?set=" ++ token

def logout (l : Links) : String := l.base.text ++ "logout"

end Links

end Gatehouse
