import Gatehouse.Proofs.Guard.Decision
import Gatehouse.Proofs.Store.Dealings

namespace Gatehouse

def Action.Puts (id : SessionId) : Action → Prop
  | .upsertSession x => x.id = id
  | _ => False

namespace State

variable {s s' : State} {id : SessionId} {now : Instant} {a : Action} {y : Session}

theorem findSession_of_effect (h : a.Effect now s s') (ha : ¬ a.Puts id) :
    s'.findSession id = s.findSession id ∨
    (∃ x reason, s.findSession id = some x ∧
      s'.findSession id = some (x.revoke reason now).2) ∨
    (∃ x taint, s.live id now = .ok x ∧ s'.findSession id = some (x.untaint taint).2) := by
  cases h with
  | @revoked _ j x reason hj hx =>
    rw [findSession_withSession, Session.revoke_id, id_of_findSession hx]
    split
    · next hji => exact .inr (.inl ⟨x, reason, hji ▸ hx, rfl⟩)
    · exact .inl rfl
  | @untainted _ j x taint hx =>
    rw [findSession_withSession, Session.untaint_id, id_of_findSession (live_eq_ok.1 hx).2.1]
    split
    · next hji => exact .inr (.inr ⟨x, taint, hji ▸ hx, rfl⟩)
    · exact .inl rfl
  | @upserted _ x u hi hu hf =>
    have hx : ¬ x.id = id := ha
    rw [findSession_withSession, if_neg hx]
    exact .inl rfl
  | created hn hs => exact .inl (findSession_insertUser hs)
  | added hc hp hu hb hs => exact .inl (findSession_insertCredential hs)
  | counted hn hf => exact .inl (findSession_setSignCount s _ _)

theorem findSession_of_effect_of_ended (h : a.Effect now s s') (ha : ¬ a.Puts id)
    (hy : s.findSession id = some y) (he : y.expiresAt.atMost now) :
    s'.findSession id = some y := by
  rcases findSession_of_effect h ha with hs | ⟨x, reason, hx, hs⟩ | ⟨x, taint, hx, -⟩
  · rw [hs, hy]
  · rw [hy, Option.some.injEq] at hx
    rw [hs, ← hx, Session.revoke_of_ended he]
  · rw [live_of_ended (live_eq_ok.1 hx).1 hy he] at hx
    cases hx

theorem reason_of_effect (h : a.Effect now s s') (ha : ¬ a.Puts id) {reason : String}
    (hr : reason ≠ "")
    (hs : ∃ y, s.findSession id = some y ∧ y.metadata.revocationReason = reason) :
    ∃ y, s'.findSession id = some y ∧ y.metadata.revocationReason = reason := by
  obtain ⟨y, hy, rfl⟩ := hs
  rcases findSession_of_effect h ha with hs | ⟨x, other, hx, hs⟩ | ⟨x, taint, hx, hs⟩
  · exact ⟨y, hs.trans hy, rfl⟩
  · rw [hy, Option.some.injEq] at hx
    refine ⟨_, hs, ?_⟩
    rw [Session.revoke_reason, if_neg fun h ↦ hr (hx ▸ h.1), hx]
  · rw [(live_eq_ok.1 hx).2.1, Option.some.injEq] at hy
    exact ⟨_, hs, by rw [Session.untaint_metadata, hy]⟩

end State

/-- Nothing of this is done before a time, or stores a session under an id. -/
def Since (t : Instant) (id : SessionId) (ps : List (Instant × Action)) : Prop :=
  ∀ p ∈ ps, t.atMost p.1 ∧ ¬ p.2.Puts id

namespace Since

variable {t : Instant} {id : SessionId} {ps : List (Instant × Action)} {y : Session}

theorem acts (h : Since t id ps) {u : Transaction} (hu : u.isOpen)
    (hy : u.working.findSession id = some y) (he : y.expiresAt.atMost t) :
    (u.acts ps).working.findSession id = some y := by
  refine (Transaction.acts_keep (P := fun s ↦ s.findSession id = some y) hu hy ?_).2
  intro p hp s s' hs heff
  have ht := h p hp
  exact State.findSession_of_effect_of_ended heff ht.2 hs (Instant.atMost_trans he ht.1)

theorem deals {d : Database} {xs : List Dealing} (h : ∀ x ∈ xs, Since t id x.actions)
    (hy : d.committed.findSession id = some y) (he : y.expiresAt.atMost t) :
    (d.deals xs).committed.findSession id = some y := by
  refine Database.deals_keep (P := fun s ↦ s.findSession id = some y) hy ?_
  intro x hx p hp s s' hs heff
  have ht := h x hx p hp
  exact State.findSession_of_effect_of_ended heff ht.2 hs (Instant.atMost_trans he ht.1)

end Since

/-- From a time on nobody can do anything with an id, be it in the midst of a transaction. -/
structure Dead (d : Database) (id : SessionId) (t : Instant) : Prop where
  lookup (access : Access) {ps : List (Instant × Action)} {now : Instant} :
    Since t id ps → t.atMost now →
      Work.lookupSession id now ((d.begin access).acts ps) =
        (.error .sessionExpired, (d.begin access).acts ps)
  untaint (access : Access) (taint : String) {ps : List (Instant × Action)} {now : Instant} :
    Since t id ps → t.atMost now →
      Work.untaintSession id taint now ((d.begin access).acts ps) =
        (.error .sessionExpired, (d.begin access).acts ps)
  resolve (g : Guard) (p : Papers) {s : Surroundings} {z : Session} :
    s.database.committed = d.committed → t.atMost s.now → (g.resolve p s).1 = .ok z → z.id ≠ id

theorem dead_of_ended {d : Database} {id : SessionId} {t : Instant} {y : Session}
    (hi : id.isZero = false) (hy : d.committed.findSession id = some y)
    (he : y.expiresAt.atMost t) : Dead d id t where
  lookup access ps now hps ht := by
    have hw := hps.acts (u := d.begin access) rfl hy he
    rw [Work.lookupSession_apply (Transaction.acts_isOpen rfl ps),
      State.live_of_ended hi hw (Instant.atMost_trans he ht)]
  untaint access taint ps now hps ht := by
    have hw := hps.acts (u := d.begin access) rfl hy he
    exact Work.untaintSession_of_error (Transaction.acts_isOpen rfl ps) taint
      (State.live_of_ended hi hw (Instant.atMost_trans he ht))
  resolve g p s z hs ht hz hzi := by
    have hz0 : z.id ≠ .zero := fun h ↦ by
      rw [← hzi, h, SessionId.isZero_zero] at hi
      cases hi
    rcases Guard.resolve_finds hz with rfl | rfl | ⟨j, -, hj⟩
    · exact hz0 rfl
    · exact hz0 rfl
    · rw [hs] at hj
      have hji : j = id := hj.id_eq.symm.trans hzi
      have hl := State.hasLive_iff.1 (hji ▸ hj)
      rw [State.live_of_ended hi hy (Instant.atMost_trans he ht)] at hl
      cases hl

section

variable {d : Database} {before later : List Dealing} {x : Dealing} {id : SessionId} {y v : Session}

theorem reason_of_acts {u : Transaction} {ps : List (Instant × Action)} (hu : u.isOpen)
    (hps : ∀ p ∈ ps, ¬ p.2.Puts id) {reason : String} (hr : reason ≠ "")
    (h : ∃ y, u.working.findSession id = some y ∧ y.metadata.revocationReason = reason) :
    ∃ y, (u.acts ps).working.findSession id = some y ∧ y.metadata.revocationReason = reason :=
  (Transaction.acts_keep (P := fun s ↦ ∃ y, s.findSession id = some y ∧
    y.metadata.revocationReason = reason) hu h
    fun p hp _ _ hs heff ↦ State.reason_of_effect heff (hps p hp) hr hs).2

theorem reason_of_deals {xs : List Dealing} (hxs : ∀ x ∈ xs, ∀ p ∈ x.actions, ¬ p.2.Puts id)
    {reason : String} (hr : reason ≠ "")
    (h : ∃ y, d.committed.findSession id = some y ∧ y.metadata.revocationReason = reason) :
    ∃ y, (d.deals xs).committed.findSession id = some y ∧ y.metadata.revocationReason = reason :=
  Database.deals_keep (P := fun s ↦ ∃ y, s.findSession id = some y ∧
    y.metadata.revocationReason = reason) h
    fun x hx p hp _ _ hs heff ↦ State.reason_of_effect heff (hxs x hx p hp) hr hs

theorem findSession_of_deal_revoke {pre post : List (Instant × Action)} {t : Instant}
    {reason : String} {w : Session}
    (hx : x.actions = pre ++ (t, .revokeSession id reason) :: post)
    (hw : ((d.begin x.access).acts pre).working.findSession id = some w)
    (hr : (Work.revokeSession id reason t ((d.begin x.access).acts pre)).1 = .ok ())
    (hc : x.ending = .commit) (hf : x.failingCommits = 0) (hp : Since t id post) :
    (d.deal x).committed.findSession id = some (w.revoke reason t).2 := by
  have hu : ((d.begin x.access).acts pre).isOpen := Transaction.acts_isOpen rfl pre
  have ha : d.working x =
      (((d.begin x.access).acts pre).act (t, .revokeSession id reason)).acts post := by
    rw [Database.working, hx, Transaction.acts_append]
    rfl
  rw [Database.committed_deal_of_commit hc hf, ha]
  rcases Work.revokeSession_cases hu id reason t with ⟨e, h⟩ | ⟨-, w', hw', h⟩
  · rw [h] at hr
    cases hr
  · obtain rfl : w = w' := Option.some.inj (hw.symm.trans hw')
    have hact : ((d.begin x.access).acts pre).act (t, .revokeSession id reason) =
        { (d.begin x.access).acts pre with
          working := ((d.begin x.access).acts pre).working.withSession (w.revoke reason t).2 } := by
      rw [Transaction.act, Action.after, h]
    rw [hact]
    refine hp.acts hu ?_ (w.revoke_ends reason t)
    rw [State.findSession_withSession, Session.revoke_id, if_pos (State.id_of_findSession hw)]

/-- A session that has once been ended by a committed transaction is dead from then on, whatever
happens afterwards. It stays as it was when it was ended, with the first reason that was
recorded. -/
theorem revoked_for_good (d : Database) (before later : List Dealing) (x : Dealing)
    {pre post : List (Instant × Action)} {t : Instant} {reason : String}
    (hx : x.actions = pre ++ (t, .revokeSession id reason) :: post)
    (hr : (Work.revokeSession id reason t (((d.deals before).begin x.access).acts pre)).1 = .ok ())
    (hc : x.ending = .commit) (hf : x.failingCommits = 0) (hp : Since t id post)
    (hl : ∀ z ∈ later, Since t id z.actions) :
    ∃ w y, (((d.deals before).begin x.access).acts pre).working.findSession id = some w ∧
      y = (w.revoke reason t).2 ∧
      (d.deals (before ++ x :: later)).committed.findSession id = some y ∧
      Dead (d.deals (before ++ x :: later)) id t ∧
      (y.metadata.revocationReason =
        if w.metadata.revocationReason = "" ∧ ¬ w.expiresAt.atMost t then reason
        else w.metadata.revocationReason) ∧
      ∀ earlier rest v, before = earlier ++ rest →
        (∀ z ∈ rest, ∀ p ∈ z.actions, ¬ p.2.Puts id) → (∀ p ∈ pre, ¬ p.2.Puts id) →
        (d.deals earlier).committed.findSession id = some v → v.metadata.revocationReason ≠ "" →
        y.metadata.revocationReason = v.metadata.revocationReason := by
  have hu : (((d.deals before).begin x.access).acts pre).isOpen := Transaction.acts_isOpen rfl pre
  rcases Work.revokeSession_cases hu id reason t with ⟨e, h⟩ | ⟨hi, w, hw, -⟩
  · rw [h] at hr
    cases hr
  have he : (w.revoke reason t).2.expiresAt.atMost t := w.revoke_ends reason t
  have hy : (d.deals (before ++ x :: later)).committed.findSession id =
      some (w.revoke reason t).2 := by
    rw [Database.deals_append]
    exact Since.deals (d := (d.deals before).deal x) hl
      (findSession_of_deal_revoke hx hw hr hc hf hp) he
  refine ⟨w, _, hw, rfl, hy, dead_of_ended hi hy he, w.revoke_reason reason t, ?_⟩
  rintro earlier rest v rfl hrest hpre hv hvr
  have hs := reason_of_deals hrest hvr ⟨v, hv, rfl⟩
  rw [← Database.deals_append] at hs
  obtain ⟨w', hw', hreason⟩ := reason_of_acts (u := (d.deals (earlier ++ rest)).begin x.access)
    rfl hpre hvr hs
  obtain rfl : w = w' := Option.some.inj (hw.symm.trans hw')
  rw [w.revoke_reason, if_neg fun h ↦ hvr (hreason.symm.trans h.1), hreason]

def arrival : Dealing where
  actions := [(.epoch, .createUser "ann"), (.epoch, .upsertSession Guard.midway)]

def logout : Dealing where
  actions := [(⟨5, 0⟩, .revokeSession Guard.midway.id "logout")]

def lateLogin : List Dealing :=
  [{ actions := [(⟨5, 0⟩, .untaintSession Guard.midway.id Taints.startLogin)] },
    { actions := [(⟨6, 0⟩, .revokeSession Guard.midway.id "failed login")] }]

theorem revoked_for_good_lateLogin :
    (({} : Database).deals ([arrival] ++ logout :: lateLogin)).committed.findSession
        Guard.midway.id = some (Guard.midway.revoke "logout" ⟨5, 0⟩).2 ∧
      Dead (({} : Database).deals ([arrival] ++ logout :: lateLogin)) Guard.midway.id ⟨5, 0⟩ := by
  have hx : logout.actions = [] ++ (⟨5, 0⟩, .revokeSession Guard.midway.id "logout") :: [] := rfl
  have hp : Since ⟨5, 0⟩ Guard.midway.id [] := by simp [Since]
  have hl : ∀ z ∈ lateLogin, Since ⟨5, 0⟩ Guard.midway.id z.actions := by
    simp [lateLogin, Since, Action.Puts, Instant.atMost_iff]
  obtain ⟨w, y, hw, rfl, hy, hd, -⟩ :=
    revoked_for_good {} [arrival] lateLogin logout hx rfl rfl rfl hp hl
  obtain rfl : Guard.midway = w := Option.some.inj hw
  exact ⟨hy, hd⟩

end

end Gatehouse
