import Gatehouse.Text.Order
import Gatehouse.Url.Host

namespace Gatehouse

/-- Whom to ask. The host is empty only where the scheme allows for that. -/
structure Url.Authority where
  username : String := ""
  password : String := ""
  host : String
  port : Option Nat := none
  deriving DecidableEq, Repr

inductive Url.Path
  | rootless (text : String)
  | rooted (segments : List String)
  deriving DecidableEq, Repr

structure Url where
  scheme : String
  authority : Option Url.Authority
  path : Url.Path
  query : Option String := none
  fragment : Option String := none
  deriving DecidableEq, Repr

def Url.Authority.address (a : Url.Authority) : String :=
  a.host ++ match a.port with
    | some n => s!":{n}"
    | none => ""

def Url.Authority.userinfo (a : Url.Authority) : String :=
  if a.username = "" ∧ a.password = "" then ""
  else if a.password = "" then a.username ++ "@"
  else a.username ++ ":" ++ a.password ++ "@"

def Url.Path.text : Url.Path → String
  | .rootless s => s
  | .rooted ss => String.join (ss.map fun s ↦ "/" ++ s)

namespace Url

def defaultPort? (scheme : String) : Option Nat :=
  Text.lookup? scheme [("http", 80), ("https", 443), ("ws", 80), ("wss", 443), ("ftp", 21)]

/-- A path that starts with two slashes would be taken for an authority. -/
def guarded : Option Authority → Path → String
  | none, .rooted ("" :: s :: ss) => "/." ++ (Path.rooted ("" :: s :: ss)).text
  | _, p => p.text

def following (mark : String) : Option String → String
  | some s => mark ++ s
  | none => ""

def text (u : Url) : String :=
  u.scheme ++ ":" ++
    (match u.authority with
      | some a => "//" ++ a.userinfo ++ a.address
      | none => "") ++
    guarded u.authority u.path ++ following "?" u.query ++ following "#" u.fragment

def host? (u : Url) : Option String := u.authority.map Authority.host

def slashed : List String → List String
  | [] => [""]
  | [s] => if s = "" then [s] else [s, ""]
  | s :: t :: ss => s :: slashed (t :: ss)

/-- The URL as a place below which other ones lie: its path ends with a slash, and nothing
follows. -/
def asFolder (u : Url) : Url :=
  { u with
    path := match u.path with
      | .rooted ss => .rooted (slashed ss)
      | p => p
    query := none
    fragment := none }

theorem slashed_slashed (ss : List String) : slashed (slashed ss) = slashed ss := by
  induction ss with
  | nil => simp [slashed]
  | cons s ss ih =>
    cases ss with
    | nil => by_cases h : s = "" <;> simp [slashed, h]
    | cons t ss =>
      obtain ⟨x, xs, hx⟩ : ∃ x xs, slashed (t :: ss) = x :: xs := by
        cases ss with
        | nil => by_cases h : t = "" <;> simp [slashed, h]
        | cons => simp [slashed]
      simp only [slashed, hx, List.cons.injEq, true_and]
      rw [← hx, ih]

theorem asFolder_asFolder (u : Url) : u.asFolder.asFolder = u.asFolder := by
  cases h : u.path <;> simp [asFolder, h, slashed_slashed]

end Url

end Gatehouse
