import Gatehouse.Proofs.Store.UnitOfWork

namespace Gatehouse

structure Answers (α : Type) where
  begin : Except StoreError Unit
  work : Except Failure α
  commit : Except StoreError Unit
  rollback : Except StoreError Unit

inductive Asked
  | begin
  | work
  | commit
  | rollback
  deriving DecidableEq, Repr

namespace Answers

variable {α : Type}

def asked (t : Answers α) : List Asked :=
  match t.begin, t.work with
  | .error _, _ => [.begin]
  | .ok (), .ok _ => [.begin, .work, .commit]
  | .ok (), .error _ => [.begin, .work, .rollback]

/-- How a try ends: as the work does if that fails, and with the complaint of the store if the
transaction cannot be begun or committed. -/
inductive Ends (t : Answers α) : Except (Stage × Failure) α → Prop
  | unbegun {e : StoreError} : t.begin = .error e → Ends t (.error (.begin, .ofError e))
  | failed {f : Failure} : t.begin = .ok () → t.work = .error f → Ends t (.error (.work, f))
  | uncommitted {a : α} {e : StoreError} : t.begin = .ok () → t.work = .ok a →
      t.commit = .error e → Ends t (.error (.commit, .ofError e))
  | done {a : α} : t.begin = .ok () → t.work = .ok a → t.commit = .ok () → Ends t (.ok a)

theorem Ends.unique {t : Answers α} {r r' : Except (Stage × Failure) α} (h : t.Ends r)
    (h' : t.Ends r') : r = r' := by
  cases h <;> cases h' <;> simp_all

/-- A try that another one may follow. -/
def AsksAgain (t : Answers α) : Prop := ∃ stage e, t.Ends (.error (stage, .retryable e))

end Answers

theorem StoreError.isPassing_iff {code : String} :
    isPassing code ↔ ∃ rest, code = "40" ++ rest ∨ code = "57" ++ rest := by
  have starts (a b : Char) : [a, b].isPrefixOf code.toList ↔
      ∃ rest, code = String.ofList [a, b] ++ rest := by
    rw [List.isPrefixOf_iff_prefix]
    constructor
    · intro h₀
      obtain ⟨rest, h⟩ := h₀
      refine ⟨String.ofList rest, String.toList_inj.1 ?_⟩
      rw [String.toList_append, String.toList_ofList, String.toList_ofList, h]
    · intro h₀
      obtain ⟨rest, rfl⟩ := h₀
      rw [String.toList_append, String.toList_ofList]
      exact List.prefix_append _ _
  rw [isPassing, Bool.or_eq_true, starts, starts, ← exists_or]

theorem Failure.isRetryable_ofError {e : StoreError} :
    (Failure.ofError e).isRetryable ↔ e = .finished ∨ (∃ reason, e = .retryable reason) ∨
      ∃ code message, e = .database (some code) message ∧
        ∃ rest, code = "40" ++ rest ∨ code = "57" ++ rest := by
  have hsame : (Failure.ofError e).isRetryable = e.isRetryable := by
    unfold ofError
    cases e.isRetryable <;> rfl
  rw [hsame]
  cases e with
  | database code message => cases code <;> simp [StoreError.isRetryable, StoreError.isPassing_iff]
  | _ => simp [StoreError.isRetryable]

namespace Backend

variable {σ α : Type} {b : Backend σ} {access : Access} {policy : RetryPolicy}
variable {work : Nat → σ → Except Failure α × σ} {s s' : σ} {n : Nat}

def answers (b : Backend σ) (access : Access) (work : σ → Except Failure α × σ) (s : σ) :
    Answers α where
  begin := (b.begin access s).1
  work := (work (b.begin access s).2).1
  commit := (b.commit (work (b.begin access s).2).2).1
  rollback := (b.rollback (work (b.begin access s).2).2).1

theorem ends_attempt (b : Backend σ) (access : Access) (work : σ → Except Failure α × σ) (s : σ) :
    (b.answers access work s).Ends (b.attempt access work s).1 := by
  unfold answers attempt
  rcases b.begin access s with ⟨e | ⟨⟩, s₁⟩
  · exact .unbegun rfl
  · dsimp only
    rcases work s₁ with ⟨f | a, s₂⟩
    · exact .failed rfl rfl
    · dsimp only
      rcases b.commit s₂ with ⟨e | ⟨⟩, s₃⟩
      · exact .uncommitted rfl rfl rfl
      · exact .done rfl rfl rfl

/-- A store that writes down what it is asked. -/
def watched (b : Backend σ) : Backend (σ × List Asked) where
  begin access p := ((b.begin access p.1).1, (b.begin access p.1).2, p.2 ++ [.begin])
  commit p := ((b.commit p.1).1, (b.commit p.1).2, p.2 ++ [.commit])
  rollback p := ((b.rollback p.1).1, (b.rollback p.1).2, p.2 ++ [.rollback])

def watching (work : Nat → σ → Except Failure α × σ) (n : Nat) (p : σ × List Asked) :
    Except Failure α × (σ × List Asked) :=
  ((work n p.1).1, (work n p.1).2, p.2 ++ [.work])

theorem attempt_watched (b : Backend σ) (access : Access)
    (work : Nat → σ → Except Failure α × σ) (n : Nat) (s : σ) (log : List Asked) :
    b.watched.attempt access (watching work n) (s, log) =
      ((b.attempt access (work n) s).1, (b.attempt access (work n) s).2,
        log ++ (b.answers access (work n) s).asked) := by
  unfold attempt
  rcases hb : b.begin access s with ⟨e | ⟨⟩, s₁⟩
  · simp [watched, answers, Answers.asked, hb]
  · rcases hw : work n s₁ with ⟨f | a, s₂⟩
    · simp [watched, watching, answers, Answers.asked, hb, hw]
    · rcases hc : b.commit s₂ with ⟨e | ⟨⟩, s₃⟩ <;>
        simp [watched, watching, answers, Answers.asked, hb, hw, hc]

def leftBy (b : Backend σ) (access : Access) (work : Nat → σ → Except Failure α × σ) (s : σ) :
    Nat → σ
  | 0 => s
  | n + 1 => (b.attempt access (work (n + 1)) (leftBy b access work s n)).2

def nth (b : Backend σ) (access : Access) (work : Nat → σ → Except Failure α × σ) (s : σ)
    (n : Nat) : Answers α :=
  b.answers access (work (n + 1)) (b.leftBy access work s n)

theorem FailedTries.leftBy_eq (h : FailedTries b access work s n s') :
    b.leftBy access work s n = s' := by
  induction h with
  | none => rfl
  | another h ha ih => rw [leftBy, ih, ha]

theorem FailedTries.asksAgain (h : FailedTries b access work s n s') {i : Nat} (hi : i < n) :
    (b.nth access work s i).AsksAgain := by
  induction h with
  | none => exact absurd hi (Nat.not_lt_zero i)
  | @another n s' s'' stage e h ha ih =>
    rcases Nat.lt_or_eq_of_le (Nat.le_of_lt_succ hi) with hlt | rfl
    · exact ih hlt
    · have hends := b.ends_attempt access (work (i + 1)) s'
      rw [ha] at hends
      rw [nth, h.leftBy_eq]
      exact ⟨stage, e, hends⟩

theorem FailedTries.watched (h : FailedTries b access work s n s') :
    FailedTries b.watched access (watching work) (s, []) n
      (s', (List.range n).flatMap fun i ↦ (b.nth access work s i).asked) := by
  induction h with
  | none => exact .none
  | @another n s' s'' stage e h ha ih =>
    have hlog := attempt_watched b access work (n + 1) s'
      ((List.range n).flatMap fun i ↦ (b.nth access work s i).asked)
    rw [ha] at hlog
    rw [List.range_succ, List.flatMap_append, List.flatMap_singleton, nth, h.leftBy_eq]
    exact ih.another hlog

/-- Only what a rollback leaves behind is of any consequence, not what is answered to it. -/
theorem run_of_rollback {b' : Backend σ} (hb : b'.begin = b.begin) (hc : b'.commit = b.commit)
    (hr : ∀ s, (b'.rollback s).2 = (b.rollback s).2) :
    b'.run access policy work s = b.run access policy work s := by
  have hattempt : b'.attempt (α := α) = b.attempt := by
    funext access work s
    simp only [attempt, hb, hc, hr]
  have hfrom (delay left n waited : Nat) (s : σ) :
      b'.runFrom access delay work left n waited s =
        b.runFrom access delay work left n waited s := by
    induction left generalizing n waited s with
    | zero =>
      unfold runFrom
      rw [hattempt]
    | succ left ih =>
      rw [runFrom, runFrom, hattempt]
      rcases b.attempt access (work n) s with ⟨⟨stage, e | e⟩ | a, s'⟩
      · exact ih _ _ _
      · rfl
      · rfl
  exact hfrom _ _ _ _ _

def report (n : Nat) (r : Except (Stage × Failure) α) : Except UnitError α :=
  r.mapError fun p ↦ ⟨n, p.1, p.2.error⟩

theorem FailedTries.run_eq_report (h : FailedTries b access work s n s')
    (hn : n < max 1 policy.maxAttempts)
    (hstop : n + 1 < max 1 policy.maxAttempts → ∀ stage e,
      (b.attempt access (work (n + 1)) s').1 ≠ .error (stage, .retryable e)) :
    b.run access policy work s = ⟨report (n + 1) (b.attempt access (work (n + 1)) s').1,
      (b.attempt access (work (n + 1)) s').2, n * policy.delay⟩ := by
  rcases ha : b.attempt access (work (n + 1)) s' with ⟨⟨stage, f⟩ | a, s''⟩
  · rw [ha] at hstop
    refine h.run_of_error hn ha fun hlt ↦ ?_
    cases f with
    | fatal e => rfl
    | retryable e => exact absurd rfl (hstop hlt stage e)
  · exact h.run_of_ok hn ha

/-- A unit of work is tried until a try succeeds or fails for good, or no more tries are allowed.
What it reports is how the last try ended, whatever is answered to a rollback; and of the store it
asks, in each try, no more and no less than what the answers before call for. -/
theorem run_reports_last_try (b : Backend σ) (access : Access) (policy : RetryPolicy)
    (work : Nat → σ → Except Failure α × σ) (s : σ) :
    (∃ n r, n < max 1 policy.maxAttempts ∧
      (∀ i < n, (b.nth access work s i).AsksAgain) ∧
      (n + 1 < max 1 policy.maxAttempts → ¬ (b.nth access work s n).AsksAgain) ∧
      (b.nth access work s n).Ends r ∧
      b.run access policy work s =
        ⟨report (n + 1) r, b.leftBy access work s (n + 1), n * policy.delay⟩ ∧
      b.watched.run access policy (watching work) (s, []) =
        ⟨report (n + 1) r, (b.leftBy access work s (n + 1),
          (List.range (n + 1)).flatMap fun i ↦ (b.nth access work s i).asked),
          n * policy.delay⟩) ∧
    (∀ e, (Failure.ofError e).isRetryable ↔ e = .finished ∨ (∃ reason, e = .retryable reason) ∨
      ∃ code message, e = .database (some code) message ∧
        ∃ rest, code = "40" ++ rest ∨ code = "57" ++ rest) ∧
    ∀ b' : Backend σ, b'.begin = b.begin → b'.commit = b.commit →
      (∀ s, (b'.rollback s).2 = (b.rollback s).2) →
      b'.run access policy work s = b.run access policy work s := by
  refine ⟨?_, fun _ ↦ Failure.isRetryable_ofError, fun _ ↦ run_of_rollback⟩
  obtain ⟨n, s', hm, h, hstop⟩ := exists_last_try b access work s (policy.maxAttempts - 1)
  have hn : n < max 1 policy.maxAttempts := by omega
  have hlast : n + 1 < max 1 policy.maxAttempts → n < policy.maxAttempts - 1 := by omega
  have hends : (b.nth access work s n).Ends (b.attempt access (work (n + 1)) s').1 := by
    rw [nth, h.leftBy_eq]
    exact b.ends_attempt access (work (n + 1)) s'
  have hleft : b.leftBy access work s (n + 1) = (b.attempt access (work (n + 1)) s').2 := by
    rw [leftBy, h.leftBy_eq]
  refine ⟨n, _, hn, fun i hi ↦ h.asksAgain hi, ?_, hends, ?_, ?_⟩
  · intro hlt hagain
    obtain ⟨stage, e, hagain⟩ := hagain
    exact hstop (hlast hlt) stage e (hends.unique hagain)
  · rw [hleft]
    exact h.run_eq_report hn fun hlt ↦ hstop (hlast hlt)
  · -- watching changes no answer, so the watched store is tried just as often
    have hw := attempt_watched b access work (n + 1) s'
      ((List.range n).flatMap fun i ↦ (b.nth access work s i).asked)
    have hrun := h.watched.run_eq_report hn fun hlt ↦ by
      rw [hw]
      exact hstop (hlast hlt)
    rw [hw] at hrun
    rw [hrun, hleft, List.range_succ, List.flatMap_append, List.flatMap_singleton, nth, h.leftBy_eq]

theorem run_reports_last_try_of_refused_rollback :
    let b : Backend Nat :=
      { begin := fun _ s ↦
          (if s = 0 then .error (.database (some "57P01") "terminating") else .ok (), s + 1)
        commit := fun s ↦ (.ok (), s + 1)
        rollback := fun s ↦ (.ok (), s + 1) }
    let refusing : Backend Nat := { b with rollback := fun s ↦ (.error .finished, s + 1) }
    let work : Nat → Nat → Except Failure Unit × Nat := fun _ s ↦ (.error (.fatal .userNotFound), s)
    refusing.run .readWrite ⟨5, 10⟩ work 0 = ⟨.error ⟨2, .work, .userNotFound⟩, 3, 10⟩ := by
  intro b refusing work
  have hsame := (b.run_reports_last_try .readWrite ⟨5, 10⟩ work 0).2.2 refusing rfl rfl fun _ ↦ rfl
  exact hsame.trans rfl

end Backend

end Gatehouse
