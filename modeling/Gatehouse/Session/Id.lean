import Gatehouse.Base64
import Gatehouse.Entropy
import Gatehouse.Text.Pieces

namespace Gatehouse

structure SessionId where
  octets : Octets
  deriving DecidableEq, Repr, Inhabited

inductive SessionIdError
  | entropy (reason : String)
  | length (n : Nat)
  | encoding (reason : String)
  deriving DecidableEq, Repr

namespace SessionId

def size : Nat := 64

end SessionId

def SessionIdError.message : SessionIdError → String
  | .entropy reason => s!"generate session id: entropy source failed: {reason}"
  | .length n => s!"session id is {n} bytes, expected {SessionId.size}"
  | .encoding reason => s!"session id is not valid base64: {reason}"

namespace SessionId

def zero : SessionId := ⟨List.replicate size 0⟩

/-- Whether no stored session can have this id: it has another length, or is all zeros. -/
def isZero (i : SessionId) : Bool := i.octets.length != size || i.octets.all (· == 0)

def text (i : SessionId) : String := Base64.encode .urlSafe i.octets

def ofText (s : String) : Except SessionIdError SessionId :=
  match Base64.decode .urlSafe s with
  | .error e => .error (.encoding e.message)
  | .ok o => if o.length = size then .ok ⟨o⟩ else .error (.length o.length)

def scheme : String := "SessionID"

def authorization (i : SessionId) : String := scheme ++ " " ++ i.text

def abbreviated (i : SessionId) : String :=
  "SessionId(" ++ String.ofList (i.text.toList.take 6) ++ "…)"

def draw (e : Entropy) : Except SessionIdError SessionId × Entropy :=
  match e.draw size with
  | (some o, e) => (.ok ⟨o⟩, e)
  | (none, e) => (.error (.entropy "no entropy"), e)

theorem isZero_zero : zero.isZero = true := by decide

theorem isZero_eq_false {i : SessionId} :
    i.isZero = false ↔ i.octets.length = size ∧ ∃ o ∈ i.octets, o ≠ 0 := by
  simp [isZero]

end SessionId

end Gatehouse
