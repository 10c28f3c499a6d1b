import Gatehouse.Http.Message
import Gatehouse.Instant.Stamp
import Gatehouse.Url.Percent

namespace Gatehouse.Http

/-- A cookie to be set. It is out of reach for scripts, and good for the whole site. -/
structure NewCookie where
  name : String
  value : String
  domain : Option String
  secure : Bool
  expires : Instant
  deriving Repr

namespace NewCookie

def isEncoded (c : Char) : Bool := Url.inUserinfo c || ['%', '(', ')', ','].contains c

def encoded (s : String) : String := String.ofList (Url.percentEncode isEncoded s.toList)

def weekdays : List String := ["Sun", "Mon", "Tue", "Wed", "Thu", "Fri", "Sat"]

def months : List String :=
  ["Jan", "Feb", "Mar", "Apr", "May", "Jun", "Jul", "Aug", "Sep", "Oct", "Nov", "Dec"]

/-- A time as browsers want it. What lies beyond the years of four digits becomes the start of
1970. -/
def dateText (a : Instant) : String :=
  let a := if a.date.year.natAbs ≤ 9999 then a else Instant.epoch
  let d := a.date
  let s := a.ofDay.toNat
  let two (n : Nat) : String := String.ofList (Instant.padded 2 n)
  weekdays.getD (Date.weekday (a.seconds / Instant.daySeconds)) "" ++ ", " ++ two d.day ++ " " ++
    months.getD (d.month - 1) "" ++ s!" {d.year} " ++ two (s / 3600) ++ ":" ++
    two (s / 60 % 60) ++ ":" ++ two (s % 60) ++ " GMT"

def bare (domain : String) : String :=
  String.ofList ((Text.after? ['.'] domain.toList).getD domain.toList)

def text (c : NewCookie) : String :=
  encoded c.name ++ "=" ++ encoded c.value ++ "; HttpOnly; SameSite=Lax" ++
    (if c.secure then "; Secure" else "") ++ "; Path=/" ++
    (match c.domain with
      | some domain => "; Domain=" ++ bare domain
      | none => "") ++
    "; Expires=" ++ dateText c.expires

def addTo (c : NewCookie) (r : Response) : Response :=
  if isFieldText c.text then { r with headers := r.headers ++ [("set-cookie", c.text)] } else r

end NewCookie

end Gatehouse.Http
