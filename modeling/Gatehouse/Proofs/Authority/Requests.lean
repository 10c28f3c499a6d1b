import Gatehouse.Proofs.Authority.Endings
import Gatehouse.Proofs.Authority.Routes

namespace Gatehouse.Authority

open Surroundings (Same SameRows)
open Http (Request Response)

/-- A credential of a session's user vouches for it: what the browser states is about a login in
this very session, at this site, and the verifier accepts the assertion. -/
structure Vouches (a : Authority) (r : Request) (s : State) (x : Session) (v : Verifier)
    (b : LoginFinish) (d : ClientData) (c : Credential) (count : Nat) : Prop where
  verifier : a.verifier = some v
  body : readBody r Wire.readLoginFinish = .ok b
  statement : validateClientData b.assertion.clientData .login x.id a.links.origin = .ok d
  kind : d.kind = "webauthn.get"
  challenge : d.challenge = x.id.text
  origin : d.origin = a.links.origin
  stored : c ∈ s.credentials
  owner : c.user.id = x.user.id
  not_deleted : c.deletedAt = none
  named : c.credentialId = b.assertion.credentialId
  accepted : v.vouch a.links.host c b.assertion = .ok count

structure Attests (a : Authority) (r : Request) (x : Session) (v : Verifier) (b : EnrollmentFinish)
    (d : ClientData) (k : Attested) (c : Credential) : Prop where
  verifier : a.verifier = some v
  body : readBody r Wire.readEnrollmentFinish = .ok b
  statement : validateClientData b.attestation.clientData .registration x.id a.links.origin = .ok d
  kind : d.kind = "webauthn.create"
  challenge : d.challenge = x.id.text
  origin : d.origin = a.links.origin
  accepted : v.attest a.links.host b.attestation = .ok k
  owner : c.user = x.user
  named : c.credentialId = k.credentialId
  key : c.publicKey = k.publicKey
  created_by : c.createdBy = x.id
  not_deleted : c.deletedAt = none

/-- The request ends the login in which a session is held. It is the session itself that asks for
it. -/
structure EndsLogin (a : Authority) (r : Request) (s : Surroundings) (x : Session) (s' : State) :
    Prop where
  path : r.target.path = Operation.finishLogin.path
  method : r.method = "POST"
  caller : (a.guard.permit .finishLogin (.ofRequest r) s).1 = .ok x
  live : s.database.committed.HasLive s.now x.id x
  vouched : ∃ v b d c n, Vouches a r s.database.committed x v b d c n ∧
    s' = (s.database.committed.setSignCount c.id n).2.withSession (x.untaint Taints.startLogin).2

/-- The request ends the enrollment for which a session is held. It is the session itself that asks
for it, and the credential is stored in the transaction that changes the session. -/
structure EndsEnrollment (a : Authority) (r : Request) (s : Surroundings) (x : Session)
    (s' : State) : Prop where
  path : r.target.path = Operation.finishEnrollment.path
  method : r.method = "POST"
  caller : (a.guard.permit .finishEnrollment (.ofRequest r) s).1 = .ok x
  live : s.database.committed.HasLive s.now x.id x
  attested : ∃ v b d k c t, Attests a r x v b d k c ∧
    (do
      let _ ← Work.addCredential c
      Work.untaintSession x.id Taints.enrollment s.now : Work Session)
        (s.database.begin .readWrite) = (.ok (x.untaint Taints.enrollment).2, t) ∧
    t.working = s' ∧ ∃ i, { c with id := i } ∈ s'.credentials

/-- What a request may make of the stored rows. -/
inductive Outcome (a : Authority) (r : Request) (s : Surroundings) : State → Prop
  | same : Outcome a r s s.database.committed
  | created {username : String} {u : User} {s' : State} : Text.trimmed username ≠ "" →
      s.database.committed.insertUser (Text.trimmed username) = .ok (u, s') → Outcome a r s s'
  | minted {p : Purpose} {x : Session} : p = .enrollment ∨ p = .login → Mints p s x →
      Outcome a r s (s.database.committed.withSession x)
  | revoked {s' : State} : State.Revokes s.now s.database.committed s' → Outcome a r s s'
  | enrolled {x : Session} {s' : State} : EndsEnrollment a r s x s' → Outcome a r s s'
  | loggedIn {x : Session} {s' : State} : EndsLogin a r s x s' → Outcome a r s s'

section

variable {a : Authority} {r : Request} {s : Surroundings} {s' : State} {id : SessionId}
variable {x y : Session}

theorem EndsLogin.untaints (h : a.EndsLogin r s x s') :
    s.database.committed.Untaints s' x Taints.startLogin := by
  refine ⟨h.live.stored, fun id ↦ ?_⟩
  obtain ⟨_, _, _, c, n, -, rfl⟩ := h.vouched
  rw [State.findSession_withSession, State.findSession_setSignCount, Session.untaint_id]

theorem EndsEnrollment.untaints (h : a.EndsEnrollment r s x s') :
    s.database.committed.Untaints s' x Taints.enrollment := by
  refine ⟨h.live.stored, fun id ↦ ?_⟩
  obtain ⟨_, _, _, _, c, t, -, hw, rfl, -⟩ := h.attested
  obtain ⟨_, s₁, z, hi, hz, -, ht⟩ := Work.addAndUntaint_of_ok rfl hw
  obtain rfl : x = z := h.live.unique (State.hasLive_iff.2 hz)
  rw [ht, State.findSession_withSession, State.findSession_insertCredential hi, Session.untaint_id]
  rfl

theorem Outcome.session_origin (h : a.Outcome r s s') (hy : s'.findSession id = some y) :
    (∃ p, (p = .enrollment ∨ p = .login) ∧ Mints p s y) ∨
    ∃ x, s.database.committed.findSession id = some x ∧ y.user = x.user := by
  cases h with
  | same => exact .inr ⟨y, hy, rfl⟩
  | created _ hu => exact .inr ⟨y, (State.findSession_insertUser hu).symm.trans hy, rfl⟩
  | @minted p z hp hz =>
    rw [State.findSession_withSession] at hy
    split at hy
    · cases hy
      exact .inl ⟨p, hp, hz⟩
    · exact .inr ⟨y, hy, rfl⟩
  | revoked hr => exact .inr (hr.origin hy)
  | enrolled he => exact .inr (he.untaints.origin hy)
  | loggedIn he => exact .inr (he.untaints.origin hy)

end

variable (a : Authority) {r : Request} {s s' : Surroundings} {x : Session} {o : Operation}

theorem respond_snd (c : Call (Option Json.Value)) (s : Surroundings) :
    (respond c s).2 = (c.run s).2 := by rw [respond_apply]

theorem respondTo_rows {β : Type} {P : State → Prop} {d : Json.Decoder β}
    {f : β → Call (Option Json.Value)} (hs : P s.database.committed)
    (h : ∀ b, readBody r d = .ok b → P ((f b).run s).2.database.committed) :
    P (respondTo r d f s).2.database.committed := by
  unfold respondTo
  cases hb : readBody r d with
  | ok b =>
    dsimp only
    rw [respond_snd]
    exact h b hb
  | error e => exact hs

theorem MayMint.outcome {p : Purpose} {s'' : State} (h : MayMint p s s'')
    (hp : p = .enrollment ∨ p = .login) : a.Outcome r s s'' := by
  rcases h with rfl | ⟨x, hx, rfl⟩
  · exact .same
  · exact .minted hp hx

theorem EnrollmentEnd.outcome {v : Verifier} {b : EnrollmentFinish} {s'' : State}
    (h : EnrollmentEnd a v x b.attestation s' s'') (hs : Same s s') (hv : a.verifier = some v)
    (hp : r.target.path = Operation.finishEnrollment.path) (hm : r.method = "POST")
    (hx : (a.guard.permit .finishEnrollment (.ofRequest r) s).1 = .ok x)
    (hb : readBody r Wire.readEnrollmentFinish = .ok b) : a.Outcome r s s'' := by
  cases h with
  | refused => exact hs.committed ▸ .same
  | @done y d k c t hd hk hcu hci hcp hcb hcd hw =>
    rw [Database.begin, hs.committed, hs.now] at hw
    obtain ⟨i, s₁, z, hi, hz, rfl, ht⟩ := Work.addAndUntaint_of_ok rfl hw
    obtain ⟨hl, rfl⟩ := Guard.eq_of_permit_of_live hx hz
    obtain ⟨hkind, hchallenge, horigin, -⟩ := validateClientData_eq_ok hd
    have hc : { c with id := i } ∈ t.working.credentials := by
      obtain ⟨-, -, -, rfl⟩ := State.insertCredential_eq_ok.1 hi
      rw [ht]
      exact List.mem_append_right _ List.mem_cons_self
    exact .enrolled ⟨hp, hm, hx, hl, v, b, d, k, c, t, ⟨hv, hb, hd, hkind, hchallenge, horigin, hk,
      hcu, hci, hcp, hcb, hcd⟩, hw, rfl, i, hc⟩

theorem LoginEnd.outcome {v : Verifier} {b : LoginFinish} {s'' : State}
    (h : LoginEnd a v x b.assertion s' s'') (hs : Same s s') (hv : a.verifier = some v)
    (hp : r.target.path = Operation.finishLogin.path) (hm : r.method = "POST")
    (hx : (a.guard.permit .finishLogin (.ofRequest r) s).1 = .ok x)
    (hb : readBody r Wire.readLoginFinish = .ok b) : a.Outcome r s s'' := by
  cases h with
  | failed hr => exact .revoked (hs.now ▸ hs.committed ▸ hr)
  | done h =>
    cases h with
    | @vouched z d c n _ hd hc hci hn hz hs'' _ =>
      rw [hs.committed] at hc hs''
      rw [hs.committed, hs.now] at hz
      obtain ⟨hl, rfl⟩ := Guard.eq_of_permit_of_live hx hz
      obtain ⟨hkind, hchallenge, horigin, -⟩ := validateClientData_eq_ok hd
      obtain ⟨hc, hcu⟩ := List.mem_filter.1 hc
      simp only [Bool.and_eq_true, beq_iff_eq, Option.isNone_iff_eq_none] at hcu
      exact .loggedIn ⟨hp, hm, hx, hl, v, b, d, c, n, ⟨hv, hb, hd, hkind, hchallenge, horigin, hc,
        hcu.1, hcu.2, hci, hn⟩, hs''⟩

theorem perform_outcome (hs : Same s s') (hx : (a.guard.permit o (.ofRequest r) s).1 = .ok x)
    (hp : r.target.path = o.path) (hm : r.method = "POST") :
    a.Outcome r s (a.perform o x r s').2.database.committed := by
  have hsame : a.Outcome r s s'.database.committed := hs.committed ▸ .same
  cases o with
  | healthCheck => exact hsame
  | listOperations => exact hsame
  | whoAmI => exact hsame
  | editUser =>
    refine respondTo_rows hsame fun b hb ↦ ?_
    rw [Call.committed_run_bind fun _ ↦ .pure _]
    rcases a.createUser_outcome b s' with h | ⟨hn, u, h⟩
    · exact h ▸ hsame
    · exact .created hn (hs.committed ▸ h)
  | generateEnrollmentLink =>
    refine respondTo_rows hsame fun b hb ↦ ?_
    rw [Call.committed_run_bind fun _ ↦ .pure _]
    exact ((same_mayMint_iff hs).1 (a.inviteUser_outcome b _ s')).outcome a (.inl rfl)
  | authorizeHttp =>
    refine respondTo_rows hsame fun b hb ↦ ?_
    rw [Call.committed_run_bind fun _ ↦ .pure _, (a.judge_sameRows b s').committed]
    exact hsame
  | startEnrollment =>
    rw [perform, respond_snd, Call.committed_run_bind fun _ ↦ .pure _,
      (a.startEnrollment_same x s').committed]
    exact hsame
  | finishEnrollment =>
    refine respondTo_rows hsame fun b hb ↦ ?_
    cases hv : a.verifier with
    | none => exact hsame
    | some v =>
      dsimp only
      rw [Call.committed_run_bind fun _ ↦ .pure _]
      exact (a.finishEnrollment_outcome v x b s').outcome a hs hv hp hm hx hb
  | startLogin =>
    refine respondTo_rows hsame fun b hb ↦ ?_
    rw [Call.committed_run_bind fun _ ↦ .pure _]
    exact ((same_mayMint_iff hs).1 (a.startLogin_outcome b _ s')).outcome a (.inr rfl)
  | finishLogin =>
    refine respondTo_rows hsame fun b hb ↦ ?_
    cases hv : a.verifier with
    | none => exact hsame
    | some v =>
      dsimp only
      rw [Call.committed_run_bind fun _ ↦ .pure _]
      exact (a.finishLogin_outcome v x b s').outcome a hs hv hp hm hx hb

theorem call_outcome (hp : r.target.path = o.path) :
    a.Outcome r s (a.call o r s).2.database.committed := by
  have hs := Guard.permit_same a.guard o (.ofRequest r) s
  rw [call, Deed.bind_apply]
  rcases hx : a.guard.permit o (.ofRequest r) s with ⟨e | x, s'⟩
  · rw [hx] at hs
    exact hs.committed ▸ .same
  · rw [hx] at hs
    by_cases hm : r.method = "POST"
    · simp only [hm, if_true]
      exact a.perform_outcome hs (by rw [hx]) hp hm
    · simp only [hm, if_false]
      exact hs.committed ▸ .same

theorem logout_ends (r : Request) : Deed.Keeps Ends (a.logout r) := by
  unfold logout
  refine .bind (.forIn fun id _ ↦ ?_) fun _ ↦ .pure _
  exact .bind (revoke_ends a.guard id "logout") fun _ ↦ .pure _

theorem page_outcome {d : Deed Response} (h : a.Outcome r s (d s).2.database.committed) :
    a.Outcome r s (page r d s).2.database.committed := by
  unfold page
  split
  · exact h
  · exact .same

theorem route_outcome (r : Request) (s : Surroundings) :
    a.Outcome r s (a.route r s).2.database.committed := by
  obtain ⟨d, hd⟩ : ∃ d, a.route r = d := ⟨_, rfl⟩
  rw [hd]
  unfold route at hd
  split at hd
  · exact hd ▸ a.page_outcome .same
  · exact hd ▸ a.page_outcome (.revoked (a.logout_ends r s).revokes)
  · cases ho : Operation.ofPath? r.target.path with
    | none =>
      rw [ho] at hd
      exact hd ▸ .same
    | some o =>
      have hp : r.target.path = o.path := by
        have h := List.find?_some ho
        exact (beq_iff_eq.1 h).symm
      simp only [ho] at hd
      split at hd
      · exact hd ▸ a.call_outcome hp
      · exact hd ▸ .same

theorem serve_outcome (r : Request) (s : Surroundings) :
    a.Outcome r s (a.serve r s).2.database.committed := a.route_outcome r s

end Gatehouse.Authority
