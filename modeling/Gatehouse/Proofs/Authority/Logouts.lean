import Gatehouse.Proofs.Authority.Principals
import Gatehouse.Proofs.Authority.Returns

namespace Gatehouse

open Http (Request Response)

namespace State

variable {s s' : State} {id : SessionId} {ids : List SessionId} {x : Session} {now t : Instant}

def ending (ids : List SessionId) (reason : String) (now : Instant) (s : State) : State :=
  { s with sessions := s.sessions.map fun x ↦ if x.id ∈ ids then (x.revoke reason now).2 else x }

@[simp] theorem ending_nil (reason : String) : s.ending [] reason now = s := by simp [ending]

theorem ending_ending (reason : String) :
    (s.ending [id] reason now).ending ids reason now = s.ending (id :: ids) reason now := by
  have hrow (x : Session) :
      (fun y : Session ↦ if y.id ∈ ids then (y.revoke reason now).2 else y)
        (if x.id ∈ [id] then (x.revoke reason now).2 else x) =
      if x.id ∈ id :: ids then (x.revoke reason now).2 else x := by
    have hended := Session.revoke_of_ended (x.revoke_ends reason now) reason
    by_cases hid : x.id = id
    · by_cases hids : id ∈ ids <;> simp [hid, hids, hended]
    · simp [hid]
  simp only [ending, List.map_map, Function.comp_def, hrow]

theorem ending_eq (ids : List SessionId) (reason : String) (now : Instant) (s : State) :
    s.ending ids reason now = { s with
      sessions := s.sessions.map fun x ↦
        if x.id ∈ ids ∧ now.before x.expiresAt then { x with
          expiresAt := now
          metadata.revocationReason :=
            if x.metadata.revocationReason = "" then reason else x.metadata.revocationReason }
        else x } := by
  have hrow (x : Session) : (if x.id ∈ ids then (x.revoke reason now).2 else x) =
      if x.id ∈ ids ∧ now.before x.expiresAt then { x with
        expiresAt := now
        metadata.revocationReason :=
          if x.metadata.revocationReason = "" then reason else x.metadata.revocationReason }
      else x := by
    by_cases hid : x.id ∈ ids
    · cases hlive : now.before x.expiresAt with
      | true => rw [if_pos hid, if_pos ⟨hid, rfl⟩, Session.revoke_of_live hlive]
      | false =>
        have hended : x.expiresAt.atMost now := by rw [Instant.atMost, hlive]; rfl
        rw [if_pos hid, if_neg (by simp), Session.revoke_of_ended hended]
    · rw [if_neg hid, if_neg fun h ↦ hid h.1]
  simp only [ending, hrow]

theorem replaceSession_eq_map {xs : List Session} (hn : (xs.map Session.id).Nodup) (hx : x ∈ xs)
    {f : Session → Session} (hf : ∀ y, (f y).id = y.id) :
    replaceSession (f x) xs = xs.map fun y ↦ if y.id = x.id then f y else y := by
  induction xs with
  | nil => cases hx
  | cons y ys ih =>
    obtain ⟨hy, hn⟩ := List.nodup_cons.1 hn
    rw [replaceSession, hf, List.map_cons]
    rcases List.mem_cons.1 hx with rfl | hx
    · have hrest : ys.map (fun y ↦ if y.id = x.id then f y else y) = ys := by
        have hne (z : Session) (hz : z ∈ ys) : z.id ≠ x.id := fun he ↦
          hy (he ▸ List.mem_map_of_mem hz)
        exact (List.map_congr_left fun z hz ↦ if_neg (hne z hz)).trans (List.map_id' ys)
      rw [if_pos rfl, if_pos rfl, hrest]
    · have hne : y.id ≠ x.id := fun he ↦ hy (he ▸ List.mem_map_of_mem hx)
      rw [if_neg hne, if_neg hne, ih hn hx]

theorem withSession_revoke (hn : (s.sessions.map Session.id).Nodup) (hx : s.findSession id = some x)
    (reason : String) : s.withSession (x.revoke reason now).2 = s.ending [id] reason now := by
  have hid : x.id = id := id_of_findSession hx
  have hmem : x ∈ s.sessions := List.mem_of_find?_eq_some hx
  have hmap := replaceSession_eq_map hn hmem fun y ↦ y.revoke_id reason now
  simp only [withSession, hmap, ending, hid, List.mem_singleton]

theorem ending_of_none (hx : s.findSession id = none) (reason : String) :
    s.ending [id] reason now = s := by
  have hne (y : Session) (hy : y ∈ s.sessions) : y.id ∉ [id] := fun he ↦ by
    have hnone := List.find?_eq_none.1 hx y hy
    exact hnone (beq_iff_eq.2 (List.mem_singleton.1 he))
  have hrows : s.sessions.map (fun y ↦ if y.id ∈ [id] then (y.revoke reason now).2 else y) =
      s.sessions :=
    (List.map_congr_left fun y hy ↦ if_neg (hne y hy)).trans (List.map_id' _)
  rw [ending, hrows]

/-- The sessions of these ids have ended by a time. -/
def Ended (ids : List SessionId) (t : Instant) (s : State) : Prop :=
  ∀ id ∈ ids, ∀ x, s.findSession id = some x → x.expiresAt.atMost t

theorem Ended.withSession (h : s.Ended ids t) (hx : x.id ∈ ids → x.expiresAt.atMost t) :
    (s.withSession x).Ended ids t := by
  intro id hid y hy
  rw [findSession_withSession] at hy
  split at hy
  · next he =>
    cases hy
    exact hx (he ▸ hid)
  · exact h id hid y hy

theorem Ended.of_findSession (h : s.Ended ids t)
    (hs : ∀ id ∈ ids, s'.findSession id = s.findSession id) : s'.Ended ids t :=
  fun id hid x hx ↦ h id hid x ((hs id hid).symm.trans hx)

theorem ended_ending (s : State) (ids : List SessionId) (reason : String) (now : Instant) :
    (s.ending ids reason now).Ended ids now := by
  intro id hid x hx
  have hmem : x ∈ (s.ending ids reason now).sessions := List.mem_of_find?_eq_some hx
  obtain ⟨y, -, hy⟩ := List.mem_map.1 hmem
  have hxid : x.id = id := id_of_findSession hx
  split at hy
  · exact hy ▸ y.revoke_ends reason now
  · next hnot => exact absurd (hxid ▸ hid) (hy ▸ hnot)

theorem Integrity.ending (h : s.Integrity) (reason : String) :
    (s.ending [id] reason now).Integrity := by
  cases hx : s.findSession id with
  | none => exact (ending_of_none hx reason).symm ▸ h
  | some x =>
    rw [← withSession_revoke h.session_ids_nodup hx]
    exact h.replace hx (x.revoke_id reason now) (x.revoke_user reason now)

theorem Untaints.ended {taint : String} (h : Untaints s s' x taint) (hs : s.Ended ids t) :
    s'.Ended ids t := by
  intro id hid y hy
  rw [h.findSession] at hy
  split at hy
  · next hxid =>
    cases hy
    exact hs id hid x (hxid ▸ h.stored)
  · exact hs id hid y hy

theorem Ended.revoke (h : s.Ended ids t) (hid : id ∈ ids) (hx : s.findSession id = some x)
    (ht : t.atMost now) (reason : String) : s.withSession (x.revoke reason now).2 = s := by
  have hended := Instant.atMost_trans (h id hid x hx) ht
  rw [Session.revoke_of_ended hended, withSession_of_findSession hx]

end State

namespace Authority

open Http.NewCookie (encoded)

variable {a : Authority} {r : Request} {s s' : Surroundings} {ids : List SessionId} {t : Instant}
variable {source : String}

theorem logout_apply (r : Request) (s : Surroundings) :
    a.logout r s = ((a.sessionCookie "" .epoch).addTo (.redirect a.links.loginPage),
      (a.guard.shownIds (.ofRequest r)).foldl
        (fun s id ↦ (a.guard.revoke id "logout" s).2) s) := by
  have hloop (ids : List SessionId) (s : Surroundings) :
      ((forIn ids PUnit.unit fun id _ ↦ do
        let _ ← a.guard.revoke id "logout"
        return .yield ⟨⟩ : Deed PUnit) s).2 =
      ids.foldl (fun s id ↦ (a.guard.revoke id "logout" s).2) s := by
    induction ids generalizing s with
    | nil => rfl
    | cons id ids ih =>
      rw [List.forIn_cons, Deed.bind_apply, List.foldl_cons, ← ih]
      rfl
  rw [← Guard.sessions_extract, ← hloop]
  rfl

/-- With commits that do not fail, nothing but the session with an id is ended, if there is one. -/
theorem revoke_apply (g : Guard) (hi : s.database.committed.Integrity)
    (hd : s.database.failingCommits = 0) (id : SessionId) (reason : String) :
    (g.revoke id reason s).2 = ⟨s.now, s.entropy,
      ⟨s.database.committed.ending [id] reason s.now, s.database.failingCommits⟩⟩ := by
  cases hx : s.database.committed.findSession id with
  | none =>
    rw [State.ending_of_none hx]
    unfold Guard.revoke
    split
    · rfl
    · next hid =>
      have hbegin : (s.database.begin .readWrite).working.findSession id = none := hx
      have hw : Work.revokeSession id reason s.now (s.database.begin .readWrite) =
          (.error .sessionNotFound, s.database.begin .readWrite) := by
        simp only [Work.revokeSession, hid, Bool.false_eq_true, if_false, Work.bind_apply,
          Work.findSession, Work.read_apply (t := s.database.begin .readWrite) rfl, hbegin]
        rfl
      rw [Deed.write, Deed.transact_of_error rfl hw]
  | some x =>
    have hmem : x ∈ s.database.committed.sessions := List.mem_of_find?_eq_some hx
    have hid : id.isZero = false := by
      rw [← State.id_of_findSession hx]
      exact SessionId.isZero_eq_false.2 (hi.session_id x hmem)
    obtain ⟨v, hv, hvx⟩ := hi.session_owner x hmem
    obtain ⟨u, hu⟩ := State.exists_findUser hv
    rw [hvx] at hu
    have hw := Work.revokeSession_of_stored (t := s.database.begin .readWrite) rfl rfl hid hx hu
      reason s.now
    rw [Guard.revoke, if_neg (by simp [hid]), Deed.write, Deed.transact_of_ok hd hw rfl,
      ← State.withSession_revoke hi.session_ids_nodup hx]
    rfl

theorem foldl_revoke (g : Guard) (hi : s.database.committed.Integrity)
    (hd : s.database.failingCommits = 0) (ids : List SessionId) (reason : String) :
    (ids.foldl (fun s id ↦ (g.revoke id reason s).2) s).database.committed =
      s.database.committed.ending ids reason s.now := by
  induction ids generalizing s with
  | nil => exact (State.ending_nil reason).symm
  | cons id ids ih =>
    rw [List.foldl_cons, revoke_apply g hi hd]
    exact (ih (s := ⟨_, _, ⟨_, _⟩⟩) (hi.ending reason) hd).trans (State.ending_ending reason)

/-- Where all these sessions have ended, nothing is left to be stored, whatever fails. -/
theorem foldl_revoke_of_ended (g : Guard) {all : List SessionId} (hids : ids ⊆ all)
    (h : s.database.committed.Ended all t) (ht : t.atMost s.now) (reason : String) :
    (ids.foldl (fun s id ↦ (g.revoke id reason s).2) s).database.committed =
      s.database.committed := by
  induction ids generalizing s with
  | nil => rfl
  | cons id ids ih =>
    have hsame : (g.revoke id reason s).2.database.committed = s.database.committed := by
      rcases revoke_cases g id reason s with hc | ⟨-, x, hx, hc⟩
      · exact hc
      · exact hc.trans (h.revoke (hids List.mem_cons_self) hx ht reason)
    have hnow : (g.revoke id reason s).2.now = s.now := (revoke_ends g id reason s).now
    rw [List.foldl_cons, ih (fun j hj ↦ hids (List.mem_cons_of_mem id hj)) (hsame ▸ h) (hnow ▸ ht),
      hsame]

/-- Sessions that have ended stay so, unless one of their ids is drawn again. -/
theorem Outcome.ended {s' : State} (h : a.Outcome r s s') (hs : s.database.committed.Ended ids t)
    (ht : t.atMost s.now) (hd : ∀ id, (SessionId.draw s.entropy).1 = .ok id → id ∉ ids) :
    s'.Ended ids t := by
  cases h with
  | same => exact hs
  | created _ hu => exact hs.of_findSession fun id _ ↦ State.findSession_insertUser hu
  | minted _ hx => exact hs.withSession fun hid ↦ absurd hid (hd _ hx.drawn)
  | revoked hr =>
    induction hr with
    | refl => exact hs
    | tail _ hstep ih =>
      obtain ⟨id, reason, x, -, hx, rfl⟩ := hstep
      refine ih.withSession fun hid ↦ ?_
      rw [Session.revoke_id, State.id_of_findSession hx] at hid
      have hended := ih id hid x hx
      rw [Session.revoke_of_ended (Instant.atMost_trans hended ht)]
      exact hended
  | enrolled hx => exact hx.untaints.ended hs
  | loggedIn hx => exact hx.untaints.ended hs

theorem ended_of_run {vs later : List Arrival} (h : (a.run vs).Ended ids t)
    (hlater : ∀ u ∈ later, t.atMost u.now ∧
      ∀ id, (SessionId.draw u.entropy).1 = .ok id → id ∉ ids) :
    (a.run (vs ++ later)).Ended ids t := by
  induction later using List.reverseRecOn with
  | nil => rwa [List.append_nil]
  | append_singleton later u ih =>
    obtain ⟨ht, hd⟩ := hlater u (List.mem_append_right _ List.mem_cons_self)
    have hbefore := ih fun w hw ↦ hlater w (List.mem_append_left _ hw)
    rw [← List.append_assoc, run_concat]
    exact (a.receive_outcome (a.run (vs ++ later)) u).ended hbefore ht hd

theorem serve_logout (hp : r.target.path = "/logout") (hm : r.method = "GET") :
    a.serve r s = (some (a.logout r s).1, (a.logout r s).2) := by
  have hroute : a.route r = page r (a.logout r) := by
    unfold route
    split
    · next h => exact absurd (hp.symm.trans h) (by decide)
    · rfl
    · next h => exact absurd hp h
  exact serve_of_page hm hroute s

def clearing (a : Authority) : String :=
  encoded a.cookie.name ++ "=; HttpOnly; SameSite=Lax" ++
    (if a.cookie.secure then "; Secure" else "") ++ "; Path=/" ++
    (match a.cookie.domain with
      | some d => "; Domain=" ++ Http.NewCookie.bare d
      | none => "") ++
    "; Expires=Thu, 01 Jan 1970 00:00:00 GMT"

theorem text_sessionCookie_empty (a : Authority) :
    (a.sessionCookie "" .epoch).text = a.clearing := by
  have hepoch : Http.NewCookie.dateText .epoch = "Thu, 01 Jan 1970 00:00:00 GMT" := by
    decide +kernel
  have hexpires : "; Expires=Thu, 01 Jan 1970 00:00:00 GMT" =
      "; Expires=" ++ Http.NewCookie.dateText .epoch := by rw [hepoch]; rfl
  have hequals : encoded a.cookie.name ++ "=; HttpOnly; SameSite=Lax" =
      encoded a.cookie.name ++ "=" ++ encoded "" ++ "; HttpOnly; SameSite=Lax" := by
    simp only [String.append_assoc]
    rfl
  rw [clearing, hexpires, hequals, ← String.append_assoc]
  rfl

structure AsksLogout (r : Request) : Prop where
  path : r.target.path = "/logout"
  method : r.method = "GET"

theorem AsksLogout.receive {v : Arrival} (h : AsksLogout v.request) (rows : State) :
    a.receive rows v = ((a.guard.shownIds (.ofRequest v.request)).foldl
      (fun s id ↦ (a.guard.revoke id "logout" s).2) (v.surroundings rows)).database.committed := by
  rw [Authority.receive, serve_logout h.path h.method, logout_apply]
  rfl

theorem AsksLogout.answered (h : AsksLogout r) (hl : Links.ofText source = .ok a.links) :
    (a.serve r s).1 = some ⟨307, ("location", a.links.loginPage) ::
      if a.cookie.domain.all Http.isFieldText then [("set-cookie", a.clearing)] else [], ""⟩ := by
  have hpage : Http.isFieldText a.links.loginPage :=
    Http.isFieldText_append (Links.isFront_base hl).isText.isFieldText (by decide)
  have hsent : Http.isFieldText a.clearing = a.cookie.domain.all Http.isFieldText := by
    rw [← text_sessionCookie_empty, Bool.eq_iff_iff, Option.all_eq_true]
    exact Http.NewCookie.isFieldText_text_iff
  rw [serve_logout h.path h.method, logout_apply]
  simp only [Http.NewCookie.addTo, text_sessionCookie_empty, hsent, Response.redirect, hpage,
    if_true]
  split <;> rfl

/-- Whoever asks for it has exactly the presented sessions ended, in any state that requests may
have left behind. -/
theorem logout_ends_presented (a : Authority) {source : String}
    (hl : Links.ofText source = .ok a.links) (vs : List Arrival) (v : Arrival)
    (hv : AsksLogout v.request) :
    let ids := a.guard.shownIds (.ofRequest v.request)
    (v.failingCommits = 0 → a.run (vs ++ [v]) = { a.run vs with
      sessions := (a.run vs).sessions.map fun x ↦
        if x.id ∈ ids ∧ v.now.before x.expiresAt then { x with
          expiresAt := v.now
          metadata.revocationReason :=
            if x.metadata.revocationReason = "" then "logout" else x.metadata.revocationReason }
        else x }) ∧
    (∀ s, (a.serve v.request s).1 = some ⟨307, ("location", a.links.loginPage) ::
      if a.cookie.domain.all Http.isFieldText then [("set-cookie", a.clearing)] else [], ""⟩) ∧
    (v.failingCommits = 0 → ∀ later w, AsksLogout w.request →
      Papers.ofRequest w.request = .ofRequest v.request → v.now.atMost w.now →
      (∀ u ∈ later, v.now.atMost u.now ∧ ∀ id, (SessionId.draw u.entropy).1 = .ok id → id ∉ ids) →
        a.run (vs ++ [v] ++ later ++ [w]) = a.run (vs ++ [v] ++ later)) := by
  intro ids
  have hrun (hd : v.failingCommits = 0) :
      a.run (vs ++ [v]) = (a.run vs).ending ids "logout" v.now := by
    rw [run_concat, hv.receive]
    exact foldl_revoke a.guard (a.run_integrity vs) hd ids "logout"
  refine ⟨fun hd ↦ ?_, fun s ↦ hv.answered hl, fun hd later w hw hpapers ht hlater ↦ ?_⟩
  · rw [hrun hd]
    exact State.ending_eq ids "logout" v.now (a.run vs)
  · have hended := ended_of_run (hrun hd ▸ State.ended_ending (a.run vs) ids "logout" v.now) hlater
    rw [run_concat, hw.receive, hpapers]
    exact foldl_revoke_of_ended a.guard (List.Subset.refl ids) hended ht "logout"

def loggedOut : Arrival where
  request := {
    method := "GET"
    target.place := some { path := "/logout" }
    headers := [("authorization", "SessionID lost"), ("authorization", comeback.authorization),
      ("cookie", "portcullis-session=" ++ comeback.text ++ "; portcullis-session=lost")] }
  now := ⟨5, 0⟩

theorem logout_ends_presented_comeback :
    let rows := { comebackRows with sessions := [namesake,
      { comingBack with expiresAt := ⟨5, 0⟩, metadata.revocationReason := "logout" }] }
    gate.run (namesakeEnrolled ++ [loginStarted] ++ [loggedOut]) = rows ∧
    (gate.serve loggedOut.request ⟨⟨5, 0⟩, {}, ⟨comebackRows, 7⟩⟩).1.map Response.status =
      some 307 ∧
    gate.run (namesakeEnrolled ++ [loginStarted] ++ [loggedOut] ++
      [{ loggedOut with now := ⟨6, 0⟩ }]) = rows := by
  intro rows
  have hl : Links.ofText "https://id.example" = .ok gate.links := by decide +kernel
  have hasks : AsksLogout loggedOut.request := ⟨rfl, rfl⟩
  obtain ⟨hends, hanswer, hagain⟩ := logout_ends_presented gate hl
    (namesakeEnrolled ++ [loginStarted]) loggedOut hasks
  have hrows : gate.run (namesakeEnrolled ++ [loginStarted] ++ [loggedOut]) = rows := by
    rw [hends rfl, run_loginStarted]
    decide +kernel
  have hrepeat := hagain rfl [] { loggedOut with now := ⟨6, 0⟩ } hasks rfl (by decide)
    fun u hu ↦ absurd hu List.not_mem_nil
  rw [List.append_nil] at hrepeat
  exact ⟨hrows, by rw [hanswer, Option.map_some], hrepeat.trans hrows⟩

/-- A domain with controls keeps a browser from forgetting its session. -/
theorem cleared_cookie_may_be_unsent :
    ¬ ∀ (a : Authority) (source : String) (r : Request) (s : Surroundings),
      Links.ofText source = .ok a.links → AsksLogout r →
        ("set-cookie", a.clearing) ∈ a.headers r s := by
  intro h
  let unsent : Authority := { gate with cookie.domain := some "id\x07example" }
  have hl : Links.ofText "https://id.example" = .ok unsent.links := by decide +kernel
  have hasks : AsksLogout loggedOut.request := ⟨rfl, rfl⟩
  have hcleared := h unsent _ loggedOut.request ⟨⟨5, 0⟩, {}, ⟨comebackRows, 0⟩⟩ hl hasks
  rw [headers_of_serve (hasks.answered hl)] at hcleared
  exact absurd hcleared (by decide +kernel)

end Authority

end Gatehouse
