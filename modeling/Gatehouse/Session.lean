import Gatehouse.Identity
import Gatehouse.Instant
import Gatehouse.Session.Id
import Gatehouse.Session.Taints

namespace Gatehouse

structure Metadata where
  userAgent : String := ""
  ipAddress : String := ""
  /-- Empty until the first revocation that gives a reason. -/
  revocationReason : String := ""
  deriving DecidableEq, Repr, Inhabited

structure Session where
  id : SessionId
  user : User
  createdAt : Instant
  expiresAt : Instant
  taints : Taints
  metadata : Metadata := {}
  deriving DecidableEq, Repr, Inhabited

namespace Session

def issue (user : User) (ttl : Span) (taints : Taints) (metadata : Metadata) (now : Instant)
    (e : Entropy) : Except SessionIdError Session × Entropy :=
  match SessionId.draw e with
  | (.ok id, e) => (.ok ⟨id, user, now, now.after ttl, taints, metadata⟩, e)
  | (.error err, e) => (.error err, e)

def root : Session :=
  ⟨.zero, .root, Instant.earliest, Instant.latest, .empty, {}⟩

def anonymous : Session :=
  ⟨.zero, .anonymous, Instant.earliest, Instant.latest, .ofList [Taints.anonymous], {}⟩

def isSentinel (s : Session) : Bool := s.id.isZero

def hasTaint (s : Session) (name : String) : Bool := s.taints.contains name

def untaint (s : Session) (name : String) : Bool × Session :=
  (s.taints.contains name, { s with taints := s.taints.remove name })

/-- Ends a session now, unless it has ended, and tells whether it did so. The first reason stays. -/
def revoke (s : Session) (reason : String) (now : Instant) : Bool × Session :=
  if s.expiresAt.atMost now then (false, s)
  else
    let kept := if s.metadata.revocationReason = "" then reason else s.metadata.revocationReason
    (true, { s with expiresAt := now, metadata := { s.metadata with revocationReason := kept } })

def isLive (s : Session) (now : Instant) : Bool :=
  s.createdAt.atMost now && now.before s.expiresAt

@[simp] theorem revoke_id (x : Session) (reason : String) (now : Instant) :
    (x.revoke reason now).2.id = x.id := by
  unfold revoke
  split <;> rfl

@[simp] theorem revoke_user (x : Session) (reason : String) (now : Instant) :
    (x.revoke reason now).2.user = x.user := by
  unfold revoke
  split <;> rfl

@[simp] theorem revoke_taints (x : Session) (reason : String) (now : Instant) :
    (x.revoke reason now).2.taints = x.taints := by
  unfold revoke
  split <;> rfl

@[simp] theorem untaint_id (x : Session) (taint : String) : (x.untaint taint).2.id = x.id := rfl

@[simp] theorem untaint_metadata (x : Session) (taint : String) :
    (x.untaint taint).2.metadata = x.metadata := rfl

theorem revoke_of_ended {x : Session} {now : Instant} (h : x.expiresAt.atMost now)
    (reason : String) : x.revoke reason now = (false, x) := by
  rw [revoke, if_pos h]

theorem revoke_of_live {x : Session} {now : Instant} (h : now.before x.expiresAt)
    (reason : String) : (x.revoke reason now).2 = { x with
      expiresAt := now
      metadata.revocationReason :=
        if x.metadata.revocationReason = "" then reason else x.metadata.revocationReason } := by
  rw [revoke, if_neg (Instant.not_atMost.2 h)]

theorem expiresAt_revoke (x : Session) (reason : String) (now : Instant) :
    (x.revoke reason now).2.expiresAt = x.expiresAt ∨
      (x.revoke reason now).2.expiresAt = now := by
  unfold revoke
  split
  · exact .inl rfl
  · exact .inr rfl

theorem revoke_ends (x : Session) (reason : String) (now : Instant) :
    (x.revoke reason now).2.expiresAt.atMost now := by
  unfold revoke
  split
  · assumption
  · exact now.atMost_self

theorem revoke_reason (x : Session) (reason : String) (now : Instant) :
    (x.revoke reason now).2.metadata.revocationReason =
      if x.metadata.revocationReason = "" ∧ ¬ x.expiresAt.atMost now then reason
      else x.metadata.revocationReason := by
  unfold revoke
  by_cases he : x.expiresAt.atMost now
  · simp [he]
  · by_cases hr : x.metadata.revocationReason = "" <;> simp [he, hr]

end Session

end Gatehouse
