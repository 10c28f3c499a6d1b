import Gatehouse.Json.Decode

namespace Gatehouse

inductive Code
  | invalidArgument
  | unauthenticated
  | permissionDenied
  | notFound
  | failedPrecondition
  | unavailable
  | internal
  deriving DecidableEq, Repr, Inhabited

namespace Code

def all : List Code := [.invalidArgument, .unauthenticated, .permissionDenied, .notFound,
  .failedPrecondition, .unavailable, .internal]

def name : Code → String
  | .invalidArgument => "invalid_argument"
  | .unauthenticated => "unauthenticated"
  | .permissionDenied => "permission_denied"
  | .notFound => "not_found"
  | .failedPrecondition => "failed_precondition"
  | .unavailable => "unavailable"
  | .internal => "internal"

def httpStatus : Code → Nat
  | .invalidArgument => 400
  | .unauthenticated => 401
  | .permissionDenied => 403
  | .notFound => 404
  | .failedPrecondition => 412
  | .unavailable => 503
  | .internal => 500

theorem mem_all (c : Code) : c ∈ all := by cases c <;> decide

theorem name_injective {c d : Code} (h : c.name = d.name) : c = d := by
  cases c <;> cases d <;> first | rfl | exact absurd h (by decide)

end Code

structure Status where
  code : Code
  message : String
  deriving DecidableEq, Repr

def Status.describe (s : Status) : String := s.code.name ++ ": " ++ s.message

namespace Wire

open Json (Value Decoder Fields)

def code (c : Code) : Value := .text c.name

def readCode : Decoder Code :=
  (Decoder.choice (Code.all.map Code.name)).map fun i ↦ Code.all.getD i .internal

def status (s : Status) : Value := .object [("code", code s.code), ("message", .text s.message)]

def readStatus : Decoder Status :=
  (((Fields.required "code" readCode).and (.required "message" Decoder.text)).map
    fun (code, message) ↦ Status.mk code message).record "struct RpcStatus"

end Wire

end Gatehouse
