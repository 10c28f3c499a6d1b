import Gatehouse.Authority.Ceremonies
import Gatehouse.Proofs.Guard.Visits

namespace Gatehouse

open Surroundings (Same SameRows)

namespace Call

variable {α β ε : Type} {R : Surroundings → Surroundings → Prop} {c : Call α} {f : α → Call β}

theorem run_bind (c : Call α) (f : α → Call β) (s : Surroundings) :
    (c >>= f).run s = match c.run s with
      | (.ok a, s) => (f a).run s
      | (.error e, s) => (.error e, s) := by
  simp only [bind, ExceptT.bind, ExceptT.run, ExceptT.mk, ExceptT.bindCont, StateT.bind]
  rcases c s with ⟨_ | _, _⟩ <;> rfl

theorem run_attempt (status : ε → Status) (d : Deed (Except ε α)) (s : Surroundings) :
    (attempt status d).run s = ((d s).1.mapError status, (d s).2) := rfl

theorem run_mk_pure (r : Except Status α) (s : Surroundings) :
    (ExceptT.mk (Pure.pure r) : Call α).run s = (r, s) := rfl

theorem run_now (s : Surroundings) : (liftM Deed.now : Call Instant).run s = (.ok s.now, s) := rfl

def Keeps (R : Surroundings → Surroundings → Prop) (c : Call α) : Prop := Deed.Keeps R c.run

theorem Keeps.attempt {d : Deed (Except ε α)} (status : ε → Status) (h : Deed.Keeps R d) :
    Keeps R (attempt status d) := h

variable [IsPreorder Surroundings R]

theorem Keeps.pure (a : α) : Keeps R (Pure.pure a : Call α) := fun s ↦ refl s

theorem Keeps.throw (e : Status) : Keeps R (throw e : Call α) := fun s ↦ refl s

theorem Keeps.now : Keeps R (liftM Deed.now : Call Instant) := fun s ↦ refl s

theorem Keeps.bind (h : Keeps R c) (h' : ∀ a, Keeps R (f a)) : Keeps R (c >>= f) := by
  intro s
  have hs : R s (c.run s).2 := h s
  rw [run_bind]
  rcases hc : c.run s with ⟨r, s'⟩
  rw [hc] at hs
  cases r with
  | ok a => exact IsTrans.trans _ _ _ hs (h' a s')
  | error e => exact hs

theorem Keeps.run_bind_same {s : Surroundings} {Q : Except Status β × Surroundings → Prop}
    (h : Keeps Same c) (he : ∀ e s', Same s s' → Q (.error e, s'))
    (h' : ∀ b s', Same s s' → c.run s = (.ok b, s') → Q ((f b).run s')) : Q ((c >>= f).run s) := by
  have hs : Same s (c.run s).2 := h s
  rw [run_bind]
  rcases hc : c.run s with ⟨r, s'⟩
  rw [hc] at hs
  cases r with
  | ok b => exact h' b s' hs hc
  | error e => exact he e s' hs

theorem committed_run_bind (h : ∀ b, Keeps SameRows (f b)) (s : Surroundings) :
    ((c >>= f).run s).2.database.committed = (c.run s).2.database.committed := by
  rw [run_bind]
  rcases c.run s with ⟨r, s'⟩
  cases r with
  | ok b => exact (h b s').committed
  | error e => rfl

end Call

namespace Authority

variable {α : Type} (a : Authority)

theorem consult_same (what : String) {w : Instant → Work α} (h : ∀ now, (w now).Reads) :
    Call.Keeps Same (a.consult what w) := .attempt _ (.transact h)

theorem consult_of_ok {what : String} {w : Instant → Work α} {s s' : Surroundings} {b : α}
    (h : (a.consult what w).run s = (.ok b, s')) :
    ∃ t, w s.now (s.database.begin .readOnly) = (.ok b, t) := by
  rw [consult, Call.run_attempt, Deed.read] at h
  rcases Deed.transact_cases .readOnly a.guard.retry w s with ⟨b', t, hw, -, hr, -⟩ | ⟨e, hr, -⟩
  · rw [hr] at h
    cases h
    exact ⟨t, hw⟩
  · rw [hr] at h
    cases h

theorem existingCredentials_of_ok {u : User} {s s' : Surroundings} {cs : List Credential}
    (h : (a.existingCredentials u).run s = (.ok cs, s')) :
    cs = s.database.committed.listCredentials u := by
  obtain ⟨t, ht⟩ := a.consult_of_ok h
  rw [Work.listCredentials, Work.read_apply rfl] at ht
  cases ht
  rfl

theorem existingCredentials_same (u : User) : Call.Keeps Same (a.existingCredentials u) :=
  a.consult_same _ fun _ ↦ .listCredentials u

theorem startEnrollment_same (x : Session) : Call.Keeps Same (a.startEnrollment x) := by
  unfold startEnrollment
  split
  · exact a.existingCredentials_same _
  · exact .throw _

theorem judge_sameRows (q : VisitQuery) : Call.Keeps SameRows (a.judge q) :=
  .attempt _ (a.guard.answer_sameRows _ _ q)

theorem installationLink_sameRows (x : Session) (redirectUrl : String) :
    Call.Keeps SameRows (a.installationLink x redirectUrl) :=
  .bind .now fun _ ↦ .bind (.attempt _ (.drawing _)) fun _ ↦ .pure _

end Authority

end Gatehouse
