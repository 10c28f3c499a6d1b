import Gatehouse.Base64
import Gatehouse.Text.Blank

namespace Gatehouse

inductive TokenError
  | keyLength (n : Nat)
  | nullKey
  | keyEncoding (reason : String)
  | empty
  | malformed (reason : String)
  | invalid
  | tooNew
  | tooOld
  | wrongKind (expected found : String)
  | payload (reason : String)
  | notSealed
  deriving DecidableEq, Repr

/-- Thirty-two octets, not all of them zero. -/
structure TokenKey where
  octets : Octets
  length_octets : octets.length = 32
  ne_zero : octets.all (· == 0) = false

namespace TokenKey

def size : Nat := 32

def ofOctets (o : Octets) : Except TokenError TokenKey :=
  if h : o.length = size then
    if h' : o.all (· == 0) = false then .ok ⟨o, h, h'⟩ else .error .nullKey
  else .error (.keyLength o.length)

def ofText (s : String) : Except TokenError TokenKey :=
  match Base64.decode .standard (Text.trimmed s) with
  | .error e => .error (.keyEncoding e.message)
  | .ok o => ofOctets o

def shown : String := "TokenKey(<redacted>)"

end TokenKey

def TokenError.message : TokenError → String
  | .keyLength n => s!"token key is {n} bytes, expected {TokenKey.size}"
  | .nullKey => "token key is all null bytes"
  | .keyEncoding reason => s!"token key is not valid base64: {reason}"
  | .empty => "empty token"
  | .malformed reason => s!"malformed token: {reason}"
  | .invalid => "invalid token"
  | .tooNew => "token issued in the future"
  | .tooOld => "token too old"
  | .wrongKind expected found => s!"token holds a {found}, expected a {expected}"
  | .payload reason => s!"token payload: {reason}"
  | .notSealed => "failed to seal token"

end Gatehouse
