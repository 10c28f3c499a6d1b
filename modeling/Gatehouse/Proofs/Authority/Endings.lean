import Gatehouse.Proofs.Authority.Ceremonies
import Gatehouse.Proofs.Token.Opening

namespace Gatehouse

open Surroundings (Same SameRows Undrawn)

def Attested.credential (k : Attested) (x : Session) (name : String) (now : Instant) : Credential :=
  ⟨⟨0⟩, x.user, k.credentialId, k.publicKey, name, k.aaguid, k.signCount, now, x.id, none⟩

namespace Authority

variable (a : Authority)

/-- How the upgrade of a session at the end of a login turns out. -/
inductive Upgrade (a : Authority) (v : Verifier) (x : Session) (t : Assertion) (s : Surroundings) :
    Except Status Session × Surroundings → Prop
  | refused {e : Status} {s' : Surroundings} : Same s s' → Upgrade a v x t s (.error e, s')
  | vouched {z : Session} {d : ClientData} {c : Credential} {n : Nat} {s' : Surroundings} :
      validateClientData t.clientData .login x.id a.links.origin = .ok d →
      c ∈ s.database.committed.listCredentials x.user → c.credentialId = t.credentialId →
      v.vouch a.links.host c t = .ok n → s.database.committed.live x.id s.now = .ok z →
      s'.database.committed = (s.database.committed.setSignCount c.id n).2.withSession
        (z.untaint Taints.startLogin).2 → Undrawn s s' →
      Upgrade a v x t s (.ok (z.untaint Taints.startLogin).2, s')

theorem upgrade_outcome (v : Verifier) (x : Session) (t : Assertion) (s : Surroundings) :
    Upgrade a v x t s ((a.upgrade v x t).run s) := by
  rw [upgrade, Call.run_bind, Call.run_mk_pure]
  cases hd : validateClientData t.clientData .login x.id a.links.origin with
  | error e => exact .refused (refl s)
  | ok d =>
    refine (a.existingCredentials_same x.user).run_bind_same (Q := Upgrade a v x t s)
      (fun _ _ hs ↦ .refused hs) fun cs s' hs hcs ↦ ?_
    obtain rfl := a.existingCredentials_of_ok hcs
    cases hf : (s.database.committed.listCredentials x.user).find? fun c ↦
      c.credentialId == t.credentialId with
    | none => exact .refused hs
    | some c =>
      rw [Call.run_bind, Call.run_mk_pure]
      cases hv : v.vouch a.links.host c t with
      | error e => exact .refused hs
      | ok n =>
        rcases a.change_cases "check counter and upgrade session" (fun now ↦ do
          Work.checkSignCount { c with signCount := n }
          Work.untaintSession x.id Taints.startLogin now) s' with
          ⟨y, t', s'', hw, hr, hc, hu⟩ | ⟨e, s'', hr, hs'⟩
        · obtain ⟨-, z, -, -, hz, rfl, hs'⟩ := Work.countAndUntaint_of_ok rfl hw
          rw [Database.begin, hs.now, hs.committed] at hz
          rw [Database.begin, hs.committed] at hs'
          have hi : c.credentialId = t.credentialId := by simpa using List.find?_some hf
          dsimp only [mapError_ok]
          rw [hr]
          exact .vouched hd (List.mem_of_find?_eq_some hf) hi hv hz (hc.trans hs')
            (IsTrans.trans _ _ _ hs.toUndrawn hu)
        · dsimp only [mapError_ok]
          rw [hr]
          exact .refused (IsTrans.trans _ _ _ hs hs')

inductive EnrollmentEnd (a : Authority) (v : Verifier) (x : Session) (t : Attestation)
    (s : Surroundings) : State → Prop
  | refused : EnrollmentEnd a v x t s s.database.committed
  | done {y : Session} {d : ClientData} {k : Attested} {c : Credential} {u : Transaction} :
      validateClientData t.clientData .registration x.id a.links.origin = .ok d →
      v.attest a.links.host t = .ok k → c.user = x.user → c.credentialId = k.credentialId →
      c.publicKey = k.publicKey → c.createdBy = x.id → c.deletedAt = none →
      (do
        let _ ← Work.addCredential c
        Work.untaintSession x.id Taints.enrollment s.now : Work Session)
          (s.database.begin .readWrite) = (.ok y, u) →
      EnrollmentEnd a v x t s u.working

/-- What the end of a login makes of the rows. -/
inductive LoginEnd (a : Authority) (v : Verifier) (x : Session) (t : Assertion)
    (s : Surroundings) : State → Prop
  | failed {s' : State} : State.Revokes s.now s.database.committed s' → LoginEnd a v x t s s'
  | done {y : Session} {s' : Surroundings} : Upgrade a v x t s (.ok y, s') →
      LoginEnd a v x t s s'.database.committed

theorem revoke_cases (g : Guard) (id : SessionId) (reason : String) (s : Surroundings) :
    (g.revoke id reason s).2.database.committed = s.database.committed ∨
    id.isZero = false ∧ ∃ x, s.database.committed.findSession id = some x ∧
      (g.revoke id reason s).2.database.committed =
        s.database.committed.withSession (x.revoke reason s.now).2 := by
  unfold Guard.revoke
  split
  · exact .inl rfl
  · rcases Deed.transact_cases .readWrite g.retry (Work.revokeSession id reason) s with
      ⟨b, t, hw, -, -, hc⟩ | ⟨e, -, hc⟩
    · rcases Work.revokeSession_cases (t := s.database.begin .readWrite) rfl id reason s.now with
        ⟨e, h⟩ | ⟨hid, x, hx, h⟩
      · rw [h] at hw
        cases hw
      · rw [h] at hw
        cases hw
        exact .inr ⟨hid, x, hx, hc⟩
    · exact .inl hc

theorem revoke_ends (g : Guard) (id : SessionId) (reason : String) :
    Deed.Keeps Ends (g.revoke id reason) := by
  intro s
  have hnow : (g.revoke id reason s).2.now = s.now := by
    unfold Guard.revoke
    split <;> rfl
  refine ⟨hnow, ?_⟩
  rcases revoke_cases g id reason s with hc | ⟨hid, x, hx, hc⟩
  · rw [hc]
  · exact .single ⟨id, reason, x, hid, hx, hc⟩

theorem installationLink_run (x : Session) (place : String) (s : Surroundings) :
    (a.installationLink x place).run s =
      let made := Token.make Token.installations ⟨x.id, x.expiresAt, place⟩ a.key s.now s.entropy
      ((made.1.mapError Status.ofToken).map (Option.map a.links.setCookie),
        { s with entropy := made.2 }) := by
  rw [installationLink, Call.run_bind, Call.run_now]
  dsimp only
  rw [Call.run_bind, Call.run_attempt, Deed.drawing]
  rcases Token.make Token.installations ⟨x.id, x.expiresAt, place⟩ a.key s.now s.entropy with
    ⟨_ | token, e⟩ <;> rfl

theorem installationLink_of_working (x : Session) (place : String) {s : Surroundings}
    (he : s.entropy.failing = false) :
    ∃ token s', (a.installationLink x place).run s = (.ok (some (a.links.setCookie token)), s') ∧
      s'.database = s.database ∧
      (Token.make Token.installations ⟨x.id, x.expiresAt, place⟩ a.key s.now s.entropy).1 =
        .ok (some token) := by
  obtain ⟨token, ht⟩ : ∃ token, (Token.make Token.installations ⟨x.id, x.expiresAt, place⟩ a.key
    s.now s.entropy).1 = .ok (some token) := Token.exists_make he rfl
  rw [installationLink_run]
  dsimp only
  rw [ht]
  exact ⟨token, _, rfl, rfl, rfl⟩

theorem finishLogin_run (v : Verifier) (x : Session) (r : LoginFinish) (s : Surroundings) :
    (a.finishLogin v x r).run s = match (a.upgrade v x r.assertion).run s with
      | (.error e, s) => (.error e, (a.guard.revoke x.id "failed login" s).2)
      | (.ok y, s) => (a.installationLink y (a.returnPlace r.redirectToken s.now)).run s := by
  rw [finishLogin, ExceptT.run_mk, Deed.bind_apply]
  rcases (a.upgrade v x r.assertion).run s with ⟨_ | y, s'⟩ <;> rfl

theorem finishLogin_outcome (v : Verifier) (x : Session) (r : LoginFinish) (s : Surroundings) :
    LoginEnd a v x r.assertion s ((a.finishLogin v x r).run s).2.database.committed := by
  have h := a.upgrade_outcome v x r.assertion s
  rw [finishLogin_run]
  rcases hu : (a.upgrade v x r.assertion).run s with ⟨e | y, s'⟩
  · rw [hu] at h
    cases h with
    | refused hs =>
      have hr := revoke_ends a.guard x.id "failed login" s'
      refine .failed ?_
      rw [← hs.committed, ← hs.now]
      exact hr.revokes
  · rw [hu] at h
    dsimp only
    rw [(a.installationLink_sameRows y _ s').committed]
    exact .done h

theorem checkAttestation_eq_ok {v : Verifier} {x : Session} {t : Attestation} {k : Attested} :
    a.checkAttestation v x t = .ok k ↔
      ∃ d, validateClientData t.clientData .registration x.id a.links.origin = .ok d ∧
        v.attest a.links.host t = .ok k := by
  simp only [checkAttestation, bind, Except.bind]
  cases validateClientData t.clientData .registration x.id a.links.origin <;> simp

/-- An enrollment ends with nothing stored, or with a new credential and a session that has lost its
taint, for which a link is then made. -/
theorem finishEnrollment_cases (v : Verifier) (x : Session) (r : EnrollmentFinish)
    (s : Surroundings) :
    (∃ e s', (a.finishEnrollment v x r).run s = (.error e, s') ∧ Same s s') ∨
    ∃ k y t s', a.checkAttestation v x r.attestation = .ok k ∧
      (do
        let _ ← Work.addCredential (k.credential x r.name s.now)
        Work.untaintSession x.id Taints.enrollment s.now : Work Session)
          (s.database.begin .readWrite) = (.ok y, t) ∧
      s'.database.committed = t.working ∧ Undrawn s s' ∧
      (a.finishEnrollment v x r).run s = (a.installationLink y "").run s' := by
  rw [finishEnrollment, Call.run_bind, Call.run_mk_pure]
  cases hc : a.checkAttestation v x r.attestation with
  | error e => exact .inl ⟨_, s, rfl, refl s⟩
  | ok k =>
    dsimp only [mapError_ok]
    rw [Call.run_bind, Call.run_now]
    dsimp only
    rw [Call.run_bind]
    rcases a.change_cases "add credential and upgrade session" _ s with
      ⟨y, t, s', hw, hr, hc, hu⟩ | ⟨e, s', hr, hs⟩
    · rw [hr]
      exact .inr ⟨k, y, t, s', rfl, hw, hc, hu, rfl⟩
    · rw [hr]
      exact .inl ⟨e, s', rfl, hs⟩

theorem finishEnrollment_outcome (v : Verifier) (x : Session) (r : EnrollmentFinish)
    (s : Surroundings) :
    EnrollmentEnd a v x r.attestation s
      ((a.finishEnrollment v x r).run s).2.database.committed := by
  rcases a.finishEnrollment_cases v x r s with
    ⟨e, s', hr, hs⟩ | ⟨k, y, t, s', hk, hw, hc, -, hr⟩
  · rw [hr, hs.committed]
    exact .refused
  · obtain ⟨d, hd, hk⟩ := a.checkAttestation_eq_ok.1 hk
    rw [hr, (a.installationLink_sameRows y "" s').committed, hc]
    exact .done hd hk rfl rfl rfl rfl rfl hw

end Authority

end Gatehouse
