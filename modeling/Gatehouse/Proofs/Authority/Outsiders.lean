import Gatehouse.Proofs.Authority.Logins

namespace Gatehouse

open Http (Request Response)

theorem State.withSession_of_new {s : State} {x : Session} (h : s.findSession x.id = none) :
    s.withSession x = { s with sessions := s.sessions ++ [x] } := by
  have hput (xs : List Session) (hxs : ∀ y ∈ xs, y.id ≠ x.id) :
      replaceSession x xs = xs ++ [x] := by
    induction xs with
    | nil => rfl
    | cons y ys ih =>
      rw [replaceSession, if_neg (hxs y List.mem_cons_self),
        ih fun z hz ↦ hxs z (List.mem_cons_of_mem y hz), List.cons_append]
  have hs : ∀ y ∈ s.sessions, y.id ≠ x.id := by
    simpa [findSession] using h
  rw [withSession, hput s.sessions hs]

namespace Guard

variable {g : Guard} {p : Papers} {o : Operation} {s : Surroundings}

theorem permit_of_nothing (h : g.ShowsNothing p) :
    g.permit o p s = match Session.anonymous.taints.check (g.tolerances.of o) with
      | .error remaining => (.error (.permissionDenied o "anonymous" remaining), s)
      | .ok () => (.ok .anonymous, s) := by
  have hp : ¬ g.ShowsPassword p.authorization := by
    rintro ⟨password, -, -, hmem⟩
    rw [h.1] at hmem
    cases hmem
  have hr : g.resolve p s = (.ok .anonymous, s) := by
    rw [resolve_of_no_password hp, authenticate_of_nothing h]
  rw [permit_of_ok hr]
  rfl

end Guard

namespace Authority

/-- A login has been started: there is one more session, under the id that was drawn, of a user who
has a credential, and the response tells of it. -/
structure StartsLogin (a : Authority) (r : Request) (s : Surroundings) (x : Session)
    (response : Option Response) (s' : State) : Prop where
  path : r.target.path = Operation.startLogin.path
  method : r.method = "POST"
  answered : response = some (.json 200 (Wire.loginStarted a.links.host x
    (s.database.committed.listCredentials x.user)))
  drawn : (SessionId.draw s.entropy).1 = .ok x.id
  not_zero : x.id.isZero = false
  new : s.database.committed.findSession x.id = none
  user : x.user ∈ s.database.committed.users
  credential : ∃ c ∈ s.database.committed.credentials,
    c.user.id = x.user.id ∧ c.deletedAt = none
  taints : x.taints = .ofList [Taints.startLogin]
  created : x.createdAt = s.now
  ends : x.expiresAt = s.now.after (Instant.hours 18)
  rows : s' = { s.database.committed with sessions := s.database.committed.sessions ++ [x] }

variable {a : Authority} {r : Request} {s : Surroundings}

theorem serve_startLogin (hf : ∀ id, (SessionId.draw s.entropy).1 = .ok id →
      s.database.committed.findSession id = none)
    (hp : r.target.path = Operation.startLogin.path) (hm : r.method = "POST")
    (ho : a.serves .startLogin) {y : Session}
    (hx : a.guard.permit .startLogin (.ofRequest r) s = (.ok y, s)) :
    (a.serve r s).2.database.committed = s.database.committed ∨
      ∃ x, StartsLogin a r s x (a.serve r s).1 (a.serve r s).2.database.committed := by
  rw [serve_of_permit hp ho hm hx, perform]
  cases hb : readBody r Wire.readLoginStart with
  | error e =>
    rw [respondTo, hb]
    exact .inl rfl
  | ok b =>
    rw [respondTo_map hb]
    rcases a.startLogin_cases b (.ofRequest r) s with
      ⟨x, cs, s', hr, hmint, rfl, hcs, hc⟩ | ⟨e, s', hr, hs⟩
    · rw [hr]
      have hnew := hf x.id hmint.drawn
      obtain ⟨c, hcm⟩ := List.exists_mem_of_ne_nil _ hcs
      obtain ⟨hcm, hcu⟩ := List.mem_filter.1 hcm
      simp only [Bool.and_eq_true, beq_iff_eq, Option.isNone_iff_eq_none] at hcu
      refine .inr ⟨x, hp, hm, rfl, hmint.drawn, hmint.not_zero, hnew, hmint.user,
        ⟨c, hcm, hcu.1, hcu.2⟩, hmint.taints, hmint.created, hmint.ends, ?_⟩
      exact hc.trans (State.withSession_of_new hnew)
    · rw [hr]
      exact .inl hs.committed

/-- Operations that those who show nothing may ask for store nothing, but for the start of a
login. -/
theorem perform_of_anonymous {o : Operation} {x : Session}
    (ho : (Tolerances.standard.of o).contains Taints.anonymous) (hne : o ≠ .startLogin)
    (s : Surroundings) : (a.perform o x r s).2.database.committed = s.database.committed := by
  cases o with
  | healthCheck | listOperations | whoAmI => rfl
  | startLogin => exact absurd rfl hne
  | authorizeHttp =>
    refine respondTo_rows (P := (· = s.database.committed)) rfl fun b hb ↦ ?_
    rw [Call.committed_run_bind fun _ ↦ .pure _, (a.judge_sameRows b s).committed]
  | editUser | generateEnrollmentLink | startEnrollment | finishEnrollment | finishLogin =>
    exact absurd ho (by decide)

theorem serve_elsewhere (ho : Operation.ofPath? r.target.path = none)
    (hn : a.guard.ShowsNothing (.ofRequest r)) :
    (a.serve r s).2.database.committed = s.database.committed := by
  have hlogout : (a.logout r s).2 = s := by
    rw [logout, Guard.sessions_extract, hn.shownIds_eq_nil]
    rfl
  rw [serve_snd]
  obtain ⟨d, hd⟩ : ∃ d, a.route r = d := ⟨_, rfl⟩
  rw [hd]
  unfold route at hd
  split at hd
  · subst hd
    unfold page
    split <;> rfl
  · subst hd
    unfold page
    split
    · show (a.logout r s).2.database.committed = _
      rw [hlogout]
    · rfl
  · rw [ho] at hd
    subst hd
    rfl

/-- Who does not pass stores nothing. Who shows nothing at all can start a login, and that only adds
a session. -/
theorem outsiders_only_start_logins (a : Authority) (r : Request) (s : Surroundings) :
    (∀ o e, r.target.path = o.path → (a.guard.permit o (.ofRequest r) s).1 = .error e →
      (a.serve r s).2.database.committed = s.database.committed) ∧
    (a.guard.tolerances = .standard → a.guard.ShowsNothing (.ofRequest r) →
      (∀ id, (SessionId.draw s.entropy).1 = .ok id →
        s.database.committed.findSession id = none) →
      (a.serve r s).2.database.committed = s.database.committed ∨
        ∃ x, StartsLogin a r s x (a.serve r s).1 (a.serve r s).2.database.committed) := by
  refine ⟨fun o e hp hx ↦ serve_of_rejection hp hx, fun htol hn hf ↦ ?_⟩
  cases ho : Operation.ofPath? r.target.path with
  | none => exact .inl (serve_elsewhere ho hn)
  | some o =>
    have hp : r.target.path = o.path := by
      have h := List.find?_some ho
      exact (beq_iff_eq.1 h).symm
    have hx := Guard.permit_of_nothing (o := o) (s := s) hn
    rw [htol] at hx
    cases htaints : Session.anonymous.taints.check (Tolerances.standard.of o) with
    | error remaining =>
      rw [htaints] at hx
      exact .inl (serve_of_rejection hp (congrArg Prod.fst hx))
    | ok =>
      rw [htaints] at hx
      have htolerated : (Tolerances.standard.of o).contains Taints.anonymous :=
        Taints.check_eq_ok.1 htaints Taints.anonymous (by decide)
      by_cases hserves : a.serves o
      · by_cases hm : r.method = "POST"
        · by_cases hlogin : o = .startLogin
          · subst hlogin
            exact serve_startLogin hf hp hm hserves hx
          · rw [serve_of_permit hp hserves hm hx]
            exact .inl (perform_of_anonymous htolerated hlogin s)
        · rw [serve_snd, route_operation hp, if_pos hserves]
          exact .inl (call_of_other_method hm s)
      · rw [serve_snd, route_operation hp, if_neg hserves]
        exact .inl rfl

section Comeback

def beforeComeback : Surroundings := ⟨⟨4, 0⟩, loginStarted.entropy, ⟨namesakeRows, 0⟩⟩

theorem outsiders_only_start_logins_comeback :
    keyGate.guard.ShowsNothing (.ofRequest loginStarted.request) ∧
    ∃ x, StartsLogin keyGate loginStarted.request beforeComeback x
      (keyGate.serve loginStarted.request beforeComeback).1
      (keyGate.serve loginStarted.request beforeComeback).2.database.committed := by
  have hn : keyGate.guard.ShowsNothing (.ofRequest loginStarted.request) := ⟨rfl, rfl⟩
  have hf (id : SessionId) (hid : (SessionId.draw beforeComeback.entropy).1 = .ok id) :
      beforeComeback.database.committed.findSession id = none := by
    have hdraw : (SessionId.draw beforeComeback.entropy).1 = .ok comeback := by decide +kernel
    rw [hdraw] at hid
    cases hid
    decide
  have hrows : (keyGate.serve loginStarted.request beforeComeback).2.database.committed ≠
      beforeComeback.database.committed := by decide +kernel
  exact ⟨hn, ((outsiders_only_start_logins keyGate loginStarted.request beforeComeback).2 rfl hn
    hf).resolve_left hrows⟩

end Comeback

end Authority

end Gatehouse
