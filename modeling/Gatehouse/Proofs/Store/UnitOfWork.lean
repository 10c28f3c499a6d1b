import Gatehouse.Proofs.Except
import Gatehouse.Surroundings

namespace Gatehouse

namespace Backend

variable {σ α : Type} {b : Backend σ} {access : Access} {delay left n waited : Nat}
variable {work : Nat → σ → Except Failure α × σ} {s s' : σ} {a : α} {stage : Stage}

theorem runFrom_of_ok (h : b.attempt access (work n) s = (.ok a, s')) :
    b.runFrom access delay work left n waited s = ⟨.ok a, s', waited⟩ := by
  cases left <;> rw [runFrom, h]

theorem runFrom_of_last {f : Failure} (h : b.attempt access (work n) s = (.error (stage, f), s')) :
    b.runFrom access delay work 0 n waited s = ⟨.error ⟨n, stage, f.error⟩, s', waited⟩ := by
  rw [runFrom, h]

theorem runFrom_of_fatal {e : StoreError}
    (h : b.attempt access (work n) s = (.error (stage, .fatal e), s')) :
    b.runFrom access delay work left n waited s = ⟨.error ⟨n, stage, e⟩, s', waited⟩ := by
  cases left <;> rw [runFrom, h] <;> rfl

theorem runFrom_of_retryable {e : StoreError}
    (h : b.attempt access (work n) s = (.error (stage, .retryable e), s')) :
    b.runFrom access delay work (left + 1) n waited s =
      b.runFrom access delay work left (n + 1) (waited + delay) s' := by
  rw [runFrom, h]

/-- Tries number one to `n` have failed, each in a way that may pass. What the last of them left is
what the next one finds. -/
inductive FailedTries (b : Backend σ) (access : Access) (work : Nat → σ → Except Failure α × σ)
    (s : σ) : Nat → σ → Prop
  | none : FailedTries b access work s 0 s
  | another {n : Nat} {s' s'' : σ} {stage : Stage} {e : StoreError} :
      FailedTries b access work s n s' →
      b.attempt access (work (n + 1)) s' = (.error (stage, .retryable e), s'') →
      FailedTries b access work s (n + 1) s''

theorem FailedTries.run_eq {policy : RetryPolicy} (h : FailedTries b access work s n s')
    (hn : n < max 1 policy.maxAttempts) :
    b.run access policy work s = b.runFrom access policy.delay work (policy.maxAttempts - 1 - n)
      (n + 1) (n * policy.delay) s' := by
  induction h with
  | none => simp only [run, Nat.sub_zero, Nat.zero_mul]
  | @another n s' s'' stage e h ha ih =>
    have hl : policy.maxAttempts - 1 - n = policy.maxAttempts - 1 - (n + 1) + 1 := by omega
    rw [ih (by omega), hl, runFrom_of_retryable ha, Nat.succ_mul]

theorem FailedTries.run_of_ok {policy : RetryPolicy} (h : FailedTries b access work s n s')
    (hn : n < max 1 policy.maxAttempts) {s'' : σ}
    (ha : b.attempt access (work (n + 1)) s' = (.ok a, s'')) :
    b.run access policy work s = ⟨.ok a, s'', n * policy.delay⟩ := by
  rw [h.run_eq hn, runFrom_of_ok ha]

theorem FailedTries.run_of_error {policy : RetryPolicy} (h : FailedTries b access work s n s')
    (hn : n < max 1 policy.maxAttempts) {f : Failure} {s'' : σ}
    (ha : b.attempt access (work (n + 1)) s' = (.error (stage, f), s''))
    (hf : n + 1 < max 1 policy.maxAttempts → f.isRetryable = false) :
    b.run access policy work s = ⟨.error ⟨n + 1, stage, f.error⟩, s'', n * policy.delay⟩ := by
  rw [h.run_eq hn]
  cases f with
  | fatal e => exact runFrom_of_fatal ha
  | retryable e =>
    have hlast : policy.maxAttempts - 1 - n = 0 := by
      rcases Nat.lt_or_ge (n + 1) (max 1 policy.maxAttempts) with hm | hm
      · cases hf hm
      · omega
    rw [hlast, runFrom_of_last ha]

/-- Tries go on until one does not ask for another, or until no more are allowed. -/
theorem exists_last_try (b : Backend σ) (access : Access)
    (work : Nat → σ → Except Failure α × σ) (s : σ) (m : Nat) :
    ∃ n s', n ≤ m ∧ FailedTries b access work s n s' ∧
      (n < m → ∀ stage e, (b.attempt access (work (n + 1)) s').1 ≠
        .error (stage, .retryable e)) := by
  induction m with
  | zero => exact ⟨0, s, Nat.le_refl 0, .none, fun h ↦ absurd h (Nat.lt_irrefl 0)⟩
  | succ m ih =>
    obtain ⟨n, s', hn, h, hstop⟩ := ih
    rcases Nat.lt_or_eq_of_le hn with hlt | rfl
    · exact ⟨n, s', Nat.le_succ_of_le hn, h, fun _ ↦ hstop hlt⟩
    · rcases ha : b.attempt access (work (n + 1)) s' with ⟨⟨stage, e | e⟩ | a, s''⟩
      · exact ⟨n + 1, s'', Nat.le_refl _, h.another ha, fun h ↦ absurd h (Nat.lt_irrefl _)⟩
      · exact ⟨n, s', Nat.le_succ n, h, fun _ _ _ he ↦ by rw [ha] at he; cases he⟩
      · exact ⟨n, s', Nat.le_succ n, h, fun _ _ _ he ↦ by rw [ha] at he; cases he⟩

theorem run_cases (b : Backend σ) (access : Access) (policy : RetryPolicy)
    (work : Nat → σ → Except Failure α × σ) (s : σ) :
    ∃ n s', n < max 1 policy.maxAttempts ∧ FailedTries b access work s n s' ∧
      ((∃ a, b.attempt access (work (n + 1)) s' = (.ok a, (b.run access policy work s).final) ∧
        (b.run access policy work s).result = .ok a) ∨
      (∃ stage f, b.attempt access (work (n + 1)) s' =
          (.error (stage, f), (b.run access policy work s).final) ∧
        (b.run access policy work s).result = .error ⟨n + 1, stage, f.error⟩)) := by
  obtain ⟨n, s', hm, h, hstop⟩ := exists_last_try b access work s (policy.maxAttempts - 1)
  have hn : n < max 1 policy.maxAttempts := by omega
  refine ⟨n, s', hn, h, ?_⟩
  rcases ha : b.attempt access (work (n + 1)) s' with ⟨⟨stage, f⟩ | a, s''⟩
  · rw [ha] at hstop
    have hf : n + 1 < max 1 policy.maxAttempts → f.isRetryable = false := by
      intro hlt
      cases f with
      | fatal e => rfl
      | retryable e => exact absurd rfl (hstop (by omega) stage e)
    rw [h.run_of_error hn ha hf]
    exact .inr ⟨stage, f, rfl, rfl⟩
  · rw [h.run_of_ok hn ha]
    exact .inl ⟨a, rfl, rfl⟩

end Backend

namespace Connection

variable {α : Type}

def within (w : Transaction → Except Failure α × Transaction) (c : Connection) :
    Except Failure α × Connection :=
  match c.current with
  | none => (.error (.ofError .finished), c)
  | some t => ((w t).1, { c with current := some (w t).2 })

variable {access : Access} {w : Transaction → Except Failure α × Transaction} {c : Connection}

theorem attempt_within_of_error {f : Failure} {t : Transaction}
    (hw : w (c.database.begin access) = (.error f, t)) :
    backend.attempt access (within w) c =
      (.error (.work, f), { c with current := some t.rollback.2 }) := by
  simp [Backend.attempt, backend, begin, rollback, within, hw]

theorem attempt_within_of_ok {a : α} {t : Transaction} (hd : c.database.failingCommits = 0)
    (hw : w (c.database.begin access) = (.ok a, t)) (ht : t.isOpen) :
    backend.attempt access (within w) c =
      (.ok a, ⟨{ c.database with committed := t.working }, some { t with isOpen := false }⟩) := by
  simp [Backend.attempt, backend, begin, commit, within, hw, Transaction.commit, ht, hd]

theorem attempt_within_of_failing {a : α} {t : Transaction} {n : Nat}
    (hd : c.database.failingCommits = n + 1) (hw : w (c.database.begin access) = (.ok a, t))
    (ht : t.isOpen) :
    backend.attempt access (within w) c =
      (.error (.commit, .retryable Transaction.conflict),
        ⟨{ c.database with failingCommits := n }, some { t with isOpen := false }⟩) := by
  simp [Backend.attempt, backend, begin, commit, within, hw, Transaction.commit, ht, hd,
    Failure.ofError, Transaction.conflict, StoreError.isRetryable, StoreError.isPassing]

/-- How a try leaves the database: with the rows of a transaction that did its work and was
committed, or with the rows that it found. -/
theorem attempt_within (access : Access) (w : Transaction → Except Failure α × Transaction)
    (c : Connection) :
    (∃ a t, c.database.failingCommits = 0 ∧ w (c.database.begin access) = (.ok a, t) ∧ t.isOpen ∧
      (backend.attempt access (within w) c).1 = .ok a ∧
      (backend.attempt access (within w) c).2.database.committed = t.working) ∨
    (∃ e, (backend.attempt access (within w) c).1 = .error e ∧
      (backend.attempt access (within w) c).2.database.committed = c.database.committed) := by
  rcases hw : w (c.database.begin access) with ⟨r, t⟩
  cases r with
  | error f =>
    rw [attempt_within_of_error hw]
    exact .inr ⟨_, rfl, rfl⟩
  | ok a =>
    cases ht : t.isOpen with
    | false =>
      refine .inr ⟨(.commit, .ofError .finished), ?_⟩
      simp [Backend.attempt, backend, begin, commit, within, hw, Transaction.commit, ht]
    | true =>
      cases hd : c.database.failingCommits with
      | zero =>
        rw [attempt_within_of_ok hd hw ht]
        exact .inl ⟨a, t, rfl, rfl, ht, rfl, rfl⟩
      | succ n =>
        rw [attempt_within_of_failing hd hw ht]
        exact .inr ⟨_, rfl, rfl⟩

theorem committed_of_failedTries {w : Nat → Transaction → Except Failure α × Transaction} {n : Nat}
    {c' : Connection} (h : backend.FailedTries access (fun n ↦ within (w n)) c n c') :
    c'.database.committed = c.database.committed := by
  induction h with
  | none => rfl
  | @another n c₁ c₂ stage e h ha ih =>
    have hc := attempt_within access (w (n + 1)) c₁
    rw [ha] at hc
    rcases hc with ⟨a, t, -, -, -, ⟨⟩, -⟩ | ⟨-, -, hc⟩
    exact hc.trans ih

/-- Work that succeeds has as many tries that fail as commits do. -/
theorem failedTries_of_failingCommits (d : Database) {a : α} {t : Transaction}
    (hw : w (d.begin access) = (.ok a, t)) (ht : t.isOpen) (n : Nat) (hn : n ≤ d.failingCommits) :
    ∃ c, backend.FailedTries access (fun _ ↦ within w) ⟨d, none⟩ n c ∧
      c.database.failingCommits = d.failingCommits - n := by
  induction n with
  | zero => exact ⟨_, .none, rfl⟩
  | succ n ih =>
    obtain ⟨c, hc, hz⟩ := ih (Nat.le_of_succ_le hn)
    have hb : c.database.begin access = d.begin access := by
      rw [Database.begin, committed_of_failedTries hc]
      rfl
    have hs : c.database.failingCommits = d.failingCommits - (n + 1) + 1 := by omega
    exact ⟨_, hc.another (attempt_within_of_failing hs (hb ▸ hw) ht), rfl⟩

/-- Tries that failed have left nothing behind, so that the one that counts is done on the rows
that the first one found. -/
theorem run_within (access : Access) (policy : RetryPolicy)
    (w : Nat → Transaction → Except Failure α × Transaction) (c : Connection) :
    let r := backend.run access policy (fun n ↦ within (w n)) c
    (∃ n c' a t, n < max 1 policy.maxAttempts ∧
      backend.FailedTries access (fun n ↦ within (w n)) c n c' ∧
      c'.database.failingCommits = 0 ∧ w (n + 1) (c.database.begin access) = (.ok a, t) ∧
      t.isOpen ∧ r.result = .ok a ∧ r.final.database.committed = t.working) ∨
    (∃ e, r.result = .error e ∧ r.final.database.committed = c.database.committed) := by
  intro r
  obtain ⟨n, c', hn, h, hr⟩ := backend.run_cases access policy (fun n ↦ within (w n)) c
  have hc := committed_of_failedTries h
  have hb : c'.database.begin access = c.database.begin access := by rw [Database.begin, hc]; rfl
  have hw := attempt_within access (w (n + 1)) c'
  rw [hb] at hw
  rcases hr with ⟨a, ha, hr⟩ | ⟨stage, f, ha, hr⟩ <;> rw [ha] at hw
  · rcases hw with ⟨a', t, hd, hw, ht, ⟨⟩, hf⟩ | ⟨e, ⟨⟩, -⟩
    exact .inl ⟨n, c', a, t, hn, h, hd, hw, ht, hr, hf⟩
  · rcases hw with ⟨a, t, -, -, -, ⟨⟩, -⟩ | ⟨e, -, hf⟩
    exact .inr ⟨_, hr, hf.trans hc⟩

end Connection

namespace Database

variable {α : Type} (d : Database) (access : Access) (policy : RetryPolicy) (w : Work α)

theorem run_eq_within :
    d.run access policy w =
      let r := Connection.backend.run access policy (fun _ ↦ Connection.within fun t ↦
        ((w t).1.mapError Failure.ofError, (w t).2)) ⟨d, none⟩
      (r.result, r.final.database) := by
  have h : (fun (_ : Nat) (c : Connection) ↦
      ((c.perform w).1.mapError Failure.ofError, (c.perform w).2)) =
      fun _ ↦ Connection.within fun t ↦ ((w t).1.mapError Failure.ofError, (w t).2) := by
    funext _ c
    obtain ⟨d, current⟩ := c
    cases current <;> rfl
  rw [← h]
  rfl

/-- A unit of work takes effect as a whole, or not at all. -/
theorem run_cases :
    (∃ a t, w (d.begin access) = (.ok a, t) ∧ t.isOpen ∧ (d.run access policy w).1 = .ok a ∧
      (d.run access policy w).2.committed = t.working) ∨
    (∃ e, (d.run access policy w).1 = .error e ∧
      (d.run access policy w).2.committed = d.committed) := by
  rw [run_eq_within]
  rcases Connection.run_within access policy (fun _ t ↦
    ((w t).1.mapError Failure.ofError, (w t).2)) ⟨d, none⟩ with
    ⟨-, -, a, t, -, -, -, hw, ht, hr, hc⟩ | ⟨e, hr, hc⟩
  · rcases hwt : w (d.begin access) with ⟨r, t'⟩
    simp only [hwt, Prod.mk.injEq] at hw
    obtain ⟨hw, rfl⟩ := hw
    cases r with
    | error e => cases hw
    | ok b =>
      cases hw
      exact .inl ⟨a, t', rfl, ht, hr, hc⟩
  · exact .inr ⟨e, hr, hc⟩

variable {d access policy w}

theorem run_of_spare {a : α} {t : Transaction} (hd : d.failingCommits < max 1 policy.maxAttempts)
    (hw : w (d.begin access) = (.ok a, t)) (ht : t.isOpen) :
    d.run access policy w = (.ok a, ⟨t.working, 0⟩) := by
  have hw' : ((w (d.begin access)).1.mapError Failure.ofError, (w (d.begin access)).2) =
      (.ok a, t) := by rw [hw]; rfl
  obtain ⟨c, hf, hz⟩ := Connection.failedTries_of_failingCommits
    (w := fun t ↦ ((w t).1.mapError Failure.ofError, (w t).2)) d hw' ht d.failingCommits
    (Nat.le_refl _)
  have hb : c.database.begin access = d.begin access := by
    rw [Database.begin, Connection.committed_of_failedTries hf]
    rfl
  rw [Nat.sub_self] at hz
  rw [run_eq_within, hf.run_eq hd,
    Backend.runFrom_of_ok (Connection.attempt_within_of_ok hz (hb ▸ hw') ht)]
  exact congrArg (fun n ↦ (_, Database.mk t.working n)) hz

theorem run_of_ok {a : α} {t : Transaction} (hd : d.failingCommits = 0)
    (hw : w (d.begin access) = (.ok a, t)) (ht : t.isOpen) :
    d.run access policy w = (.ok a, { d with committed := t.working }) := by
  rw [run_of_spare (by rw [hd]; exact Nat.le_max_left 1 _) hw ht, hd]

theorem run_of_error {e : StoreError} {t : Transaction} (he : e.isRetryable = false)
    (hw : w (d.begin access) = (.error e, t)) :
    d.run access policy w = (.error ⟨1, .work, e⟩, d) := by
  have hw' : ((w (d.begin access)).1.mapError Failure.ofError, (w (d.begin access)).2) =
      (.error (.fatal e), t) := by rw [hw]; simp [Failure.ofError, he]
  rw [run_eq_within, Backend.run, Backend.runFrom_of_fatal
    (Connection.attempt_within_of_error (c := ⟨d, none⟩) hw')]

end Database

namespace Deed

variable {α : Type} {access : Access} {retry : RetryPolicy} {w : Instant → Work α}
variable {s : Surroundings}

theorem transact_cases (access : Access) (retry : RetryPolicy) (w : Instant → Work α)
    (s : Surroundings) :
    (∃ a t, w s.now (s.database.begin access) = (.ok a, t) ∧ t.isOpen ∧
      (transact access retry w s).1 = .ok a ∧
      (transact access retry w s).2.database.committed = t.working) ∨
    (∃ e, (transact access retry w s).1 = .error e ∧
      (transact access retry w s).2.database.committed = s.database.committed) :=
  s.database.run_cases access retry (w s.now)

theorem transact_of_ok {a : α} {t : Transaction} (hd : s.database.failingCommits = 0)
    (hw : w s.now (s.database.begin access) = (.ok a, t)) (ht : t.isOpen) :
    transact access retry w s =
      (.ok a, { s with database := { s.database with committed := t.working } }) := by
  rw [transact, Database.run_of_ok hd hw ht]

theorem transact_of_error {e : StoreError} {t : Transaction} (he : e.isRetryable = false)
    (hw : w s.now (s.database.begin access) = (.error e, t)) :
    transact access retry w s = (.error ⟨1, .work, e⟩, s) := by
  rw [transact, Database.run_of_error he hw]

end Deed

end Gatehouse
