import Mathlib.Data.List.Basic
import Gatehouse.Proofs.Store.Effects
import Gatehouse.Store.Sharing

namespace Gatehouse

structure Wrote : Type 1 where
  {type : Type}
  writing : Writing type
  answer : type

/-- Writes made one after the other, with the answers that they had. -/
inductive Replays : State → List Wrote → State → Prop
  | nil (s : State) : Replays s [] s
  | concat {s s' s'' : State} {ws : List Wrote} {w : Wrote} : Replays s ws s' →
      w.writing.on s' = .ok (w.answer, s'') → Replays s (ws ++ [w]) s''

theorem Replays.append {s s' s'' : State} {ws ws' : List Wrote} (h : Replays s ws s')
    (h' : Replays s' ws' s'') : Replays s (ws ++ ws') s'' := by
  induction h' with
  | nil => simpa only [List.append_nil] using h
  | concat _ hw ih => simpa only [List.append_assoc] using ih.concat hw

namespace SharedStore

namespace Event

def asked? : Event → Option Nat
  | .read i .. | .write i .. | .commit i _ | .rollback i _ => some i
  | .begin _ | .drop _ | .failCommits _ => none

def error? : Event → Option StoreError
  | .read _ _ (.error e) | .write _ _ (.error e) | .commit _ (.error e) | .rollback _ (.error e) =>
    some e
  | _ => none

def isRow : Event → Bool
  | .read .. | .write .. => true
  | _ => false

def ending? : Event → Option Nat
  | .commit i _ | .rollback i _ => some i
  | _ => none

def committed? : Event → Option Nat
  | .commit i (.ok _) => some i
  | _ => none

def access? : Event → Option Access
  | .begin access => some access
  | _ => none

def wrote? (i : Nat) : Event → Option Wrote
  | .write j w (.ok a) => if j = i then some ⟨w, a⟩ else none
  | _ => none

end Event

section

variable (es : List Event)

def accesses : List Access := es.filterMap Event.access?

def committers : List Nat := es.filterMap Event.committed?

def wrote (i : Nat) : List Wrote := es.filterMap (Event.wrote? i)

def Ended (i : Nat) : Prop := ∃ e ∈ es, e.ending? = some i

/-- All writes of the transactions that were begun to write and have been committed, one transaction
after the other. -/
def serial : List Wrote :=
  ((committers es).filter fun i ↦ (accesses es)[i]? = some .readWrite).flatMap (wrote es)

end

variable {es : List Event} {e : Event} {s s' : SharedStore} {i j : Nat} {t u : Transaction}
variable {d : Database}

theorem accesses_concat : accesses (es ++ [e]) = accesses es ++ e.access?.toList := by
  simp only [accesses, List.filterMap_append]
  cases h : e.access? <;> simp [h]

theorem committers_concat : committers (es ++ [e]) = committers es ++ e.committed?.toList := by
  simp only [committers, List.filterMap_append]
  cases h : e.committed? <;> simp [h]

theorem wrote_concat : wrote (es ++ [e]) i = wrote es i ++ (e.wrote? i).toList := by
  simp only [wrote, List.filterMap_append]
  cases h : e.wrote? i <;> simp [h]

theorem ended_concat : Ended (es ++ [e]) i ↔ Ended es i ∨ e.ending? = some i := by
  simp [Ended, or_and_right, exists_or]

theorem ended_of_mem_committers (h : i ∈ committers es) : Ended es i := by
  obtain ⟨e, he, hi⟩ := List.mem_filterMap.1 h
  refine ⟨e, he, ?_⟩
  unfold Event.committed? at hi
  split at hi
  · exact hi
  · cases hi

theorem lt_of_transaction? (hi : s.transaction? i = some t) : i < s.transactions.length :=
  (List.getElem?_eq_some_iff.1 (Option.join_eq_some_iff.1 hi)).1

theorem transaction?_put (hi : s.transaction? i = some t) (o : Option Transaction) (j : Nat) :
    (s.put i o).transaction? j = if i = j then o else s.transaction? j := by
  have hl := lt_of_transaction? hi
  simp only [transaction?, put, List.getElem?_set]
  split_ifs <;> rfl

theorem transaction?_opened (s : SharedStore) (access : Access) (j : Nat) :
    (s.opened access).transaction? j =
      if j = s.transactions.length then some (s.database.begin access) else s.transaction? j := by
  simp only [transaction?, opened, List.getElem?_append]
  split_ifs with hl hj hj
  · omega
  · rfl
  · rw [hj, Nat.sub_self]
    rfl
  · have hn : 1 ≤ j - s.transactions.length := by omega
    rw [List.getElem?_eq_none (Nat.le_of_not_lt hl), List.getElem?_eq_none (by simpa using hn)]

theorem put_of_transaction? (hi : s.transaction? i = some t) : s.put i (some t) = s := by
  obtain ⟨hl, hg⟩ := List.getElem?_eq_some_iff.1 (Option.join_eq_some_iff.1 hi)
  rw [put, ← hg, List.set_getElem_self]

def ended (s : SharedStore) (i : Nat) (t : Transaction) : SharedStore :=
  { s.put i (some { t with isOpen := false }) with locked := false }

inductive Change : SharedStore → Event → SharedStore → Prop
  | begun {s : SharedStore} (access : Access) : s.locked = false →
      Change s (.begin access) (s.opened access)
  | read {α : Type} {s : SharedStore} {i : Nat} {t : Transaction} (r : Reading α) :
      s.transaction? i = some t → t.isOpen → Change s (.read i r (.ok (r.of t.working))) s
  | written {α : Type} {s : SharedStore} {i : Nat} {t : Transaction} {w : Writing α} {a : α}
      {rows : State} : s.transaction? i = some t → t.isOpen → t.access = .readWrite →
      w.on t.working = .ok (a, rows) →
      Change s (.write i w (.ok a)) (s.put i (some { t with working := rows }))
  | unwritten {α : Type} {s : SharedStore} {i : Nat} {t : Transaction} (w : Writing α)
      (e : StoreError) : s.transaction? i = some t → t.isOpen → Change s (.write i w (.error e)) s
  | committed {s : SharedStore} {i : Nat} {t : Transaction} : s.transaction? i = some t →
      t.isOpen → Change s (.commit i (.ok ()))
        { s.ended i t with database := { s.database with committed := t.working } }
  | conflict {s : SharedStore} {i n : Nat} {t : Transaction} : s.transaction? i = some t →
      t.isOpen → Change s (.commit i (.error Transaction.conflict))
        { s.ended i t with database := { s.database with failingCommits := n } }
  | rolledBack {s : SharedStore} {i : Nat} {t : Transaction} : s.transaction? i = some t →
      t.isOpen → Change s (.rollback i (.ok ())) (s.ended i t)
  | finished {s : SharedStore} {i : Nat} {t : Transaction} {e : Event} :
      s.transaction? i = some t → t.isOpen = false → e.asked? = some i →
      e.error? = some .finished → Change s e s
  | dropped {s : SharedStore} {i : Nat} {t : Transaction} : s.transaction? i = some t →
      Change s (.drop i) ((s.release t).put i none)
  | failCommits {s : SharedStore} (n : Nat) :
      Change s (.failCommits n) { s with database.failingCommits := n }

theorem release_of_ended (ht : t.isOpen = false) : s.release t = s := by simp [release, ht]

theorem Step.change (h : Step s e s') : Change s e s' := by
  cases h with
  | begin access hl => exact .begun access hl
  | @read α _ i t r hi =>
    rw [r.work_eq]
    cases ht : t.isOpen with
    | true =>
      rw [Work.read_apply ht, put_of_transaction? hi]
      exact .read r hi ht
    | false =>
      rw [Work.read_of_ended ht, put_of_transaction? hi]
      exact .finished hi ht rfl rfl
  | @write α _ i t w hi =>
    rw [w.work_eq]
    cases ht : t.isOpen with
    | true =>
      rcases Work.write_cases ht w.on with ⟨e, hw⟩ | ⟨a, rows, hr, hw⟩
      · rw [hw, put_of_transaction? hi]
        exact .unwritten w e hi ht
      · rw [hw]
        exact .written hi ht (Work.access_of_write hw) hr
    | false =>
      rw [Work.write_of_ended ht, put_of_transaction? hi]
      exact .finished hi ht rfl rfl
  | @commit _ i t hi =>
    cases ht : t.isOpen with
    | true =>
      cases hd : s.database.failingCommits with
      | zero => simpa [Transaction.commit, ht, hd, release, ended, put] using Change.committed hi ht
      | succ n =>
        simpa [Transaction.commit, ht, hd, release, ended, put] using Change.conflict (n := n) hi ht
    | false =>
      simpa [Transaction.commit, ht, release_of_ended, put_of_transaction? hi] using
        Change.finished (e := .commit i (.error .finished)) hi ht rfl rfl
  | @rollback _ i t hi =>
    cases ht : t.isOpen with
    | true => simpa [Transaction.rollback, ht, release, ended, put] using Change.rolledBack hi ht
    | false =>
      simpa [Transaction.rollback, ht, release_of_ended, put_of_transaction? hi] using
        Change.finished (e := .rollback i (.error .finished)) hi ht rfl rfl
  | drop hi => exact .dropped hi
  | failCommits n => exact .failCommits n

theorem transaction?_ended (hi : s.transaction? i = some t) (j : Nat) :
    (s.ended i t).transaction? j =
      if i = j then some { t with isOpen := false } else s.transaction? j :=
  transaction?_put hi _ j

/-- The lock is free, or there is one open transaction, which holds it. -/
inductive Guarded (s : SharedStore) : Prop
  | free : s.locked = false → (∀ j u, s.transaction? j = some u → u.isOpen = false) → Guarded s
  | held {i : Nat} {t : Transaction} : s.locked → s.transaction? i = some t → t.isOpen →
      (∀ j u, s.transaction? j = some u → u.isOpen → j = i) → Guarded s

theorem Guarded.unique (h : s.Guarded) (hi : s.transaction? i = some t) (ht : t.isOpen)
    (hj : s.transaction? j = some u) (hu : u.isOpen) : j = i := by
  cases h with
  | free hl hn => simp [hn i t hi] at ht
  | held hl hk hv hn => rw [hn i t hi ht, hn j u hj hu]

theorem Guarded.ended (h : s.Guarded) (hi : s.transaction? i = some t) (ht : t.isOpen) :
    (s.ended i t).Guarded := by
  refine .free rfl fun j u hj ↦ ?_
  rw [transaction?_ended hi] at hj
  split_ifs at hj with hij
  · cases hj
    rfl
  · exact Bool.eq_false_iff.2 fun hu ↦ hij (h.unique hi ht hj hu).symm

theorem Guarded.withDatabase (h : s.Guarded) (d : Database) :
    Guarded { s with database := d } := by
  cases h with
  | free hl hn => exact .free hl hn
  | held hl hi ht hn => exact .held hl hi ht hn

theorem Guarded.dropped (h : s.Guarded) (hi : s.transaction? i = some t) :
    ((s.release t).put i none).Guarded := by
  have hp (j : Nat) (u : Transaction)
      (hj : ((s.release t).put i none).transaction? j = some u) :
      i ≠ j ∧ s.transaction? j = some u := by
    rw [transaction?_put (s := s.release t) hi] at hj
    split_ifs at hj with hij
    exact ⟨hij, hj⟩
  cases ht : t.isOpen with
  | true =>
    refine .free (by simp [release, put, ht]) fun j u hj ↦ ?_
    exact Bool.eq_false_iff.2 fun hu ↦ (hp j u hj).1 (h.unique hi ht (hp j u hj).2 hu).symm
  | false =>
    rw [release_of_ended ht] at hp ⊢
    cases h with
    | free hl hn => exact .free hl fun j u hj ↦ hn j u (hp j u hj).2
    | @held k v hl hk hv hn =>
      refine .held hl (?_ : (s.put i none).transaction? k = some v) hv
        fun j u hj hu ↦ hn j u (hp j u hj).2 hu
      have hik : i ≠ k := by
        rintro rfl
        rw [hi, Option.some.injEq] at hk
        rw [hk, hv] at ht
        cases ht
      rw [transaction?_put hi, if_neg hik, hk]

theorem Guarded.of_change (hg : s.Guarded) (h : Change s e s') : s'.Guarded := by
  cases h with
  | begun access hl =>
    cases hg with
    | free _ hn =>
      refine .held (i := s.transactions.length) (t := s.database.begin access) rfl ?_ rfl ?_
      · rw [transaction?_opened, if_pos rfl]
      · intro j u hj hu
        rw [transaction?_opened] at hj
        split_ifs at hj with hjl
        · exact hjl
        · simp [hn j u hj] at hu
    | held hl' => simp [hl] at hl'
  | read r hi ht => exact hg
  | @written α _ i t w a rows hi ht ha hw =>
    cases hg with
    | free hl hn => simp [hn i t hi] at ht
    | @held k v hl hk hv hn =>
      refine .held (i := i) (t := { t with working := rows }) hl ?_ ht ?_
      · rw [transaction?_put hi, if_pos rfl]
      · intro j u hj hu
        rw [transaction?_put hi] at hj
        split_ifs at hj with hij
        · exact hij.symm
        · rw [hn i t hi ht, hn j u hj hu]
  | unwritten w e hi ht => exact hg
  | committed hi ht => exact (hg.ended hi ht).withDatabase _
  | conflict hi ht => exact (hg.ended hi ht).withDatabase _
  | rolledBack hi ht => exact hg.ended hi ht
  | finished hi ht ha he => exact hg
  | dropped hi => exact hg.dropped hi
  | failCommits n => exact hg.withDatabase _

theorem Run.guarded (h : Run d es s) : s.Guarded := by
  induction h with
  | start => exact .free rfl fun j u hj ↦ by simp [transaction?] at hj
  | step _ hs ih => exact ih.of_change hs.change

theorem access?_of_asked? (h : e.asked? = some i) : e.access? = none := by
  cases e <;> first | rfl | cases h

theorem Run.length (h : Run d es s) : s.transactions.length = (accesses es).length := by
  induction h with
  | start => rfl
  | step _ hs ih =>
    rw [accesses_concat, List.length_append, ← ih]
    cases hs.change with
    | finished hi ht ha he => simp [access?_of_asked? ha]
    | _ => simp [opened, put, SharedStore.ended, release, Event.access?]

theorem asked?_of_ending? (h : e.ending? = some i) : e.asked? = some i := by
  cases e <;> first | exact h | cases h

theorem wrote?_of_error? (h : e.error? = some .finished) (i : Nat) : e.wrote? i = none := by
  cases e with
  | write j w answer =>
    cases answer with
    | error err => rfl
    | ok a => cases h
  | _ => rfl

theorem wrote?_of_committed? (h : e.committed? = some j) (i : Nat) : e.wrote? i = none := by
  cases e <;> first | rfl | cases h

theorem origin_of_ended (hi : s.transaction? i = some t)
    (hj : (s.ended i t).transaction? j = some u) :
    ∃ v, s.transaction? j = some v ∧ u.access = v.access ∧ (u.isOpen → i ≠ j ∧ v = u) := by
  rw [transaction?_ended hi] at hj
  split_ifs at hj with hij
  · cases hj
    exact ⟨t, hij ▸ hi, rfl, nofun⟩
  · exact ⟨u, hj, rfl, fun hu ↦ ⟨hij, rfl⟩⟩

/-- Where a transaction comes from: it has just been begun, or it was there before. An ended one
does not open again, and what an open one sees changes only by what it writes. -/
theorem Change.origin (h : Change s e s') (hj : s'.transaction? j = some u) :
    (∃ access, e = .begin access ∧ j = s.transactions.length ∧ u = s.database.begin access) ∨
    ∃ t, s.transaction? j = some t ∧ u.access = t.access ∧ (u.isOpen → t.isOpen ∧
      e.ending? ≠ some j ∧ Replays t.working (e.wrote? j).toList u.working) := by
  -- what a step does to other transactions than number `j`, or to the database, is nothing to it
  have same (hj : s.transaction? j = some u) (he : e.ending? ≠ some j) (hw : e.wrote? j = none) :
      ∃ t, s.transaction? j = some t ∧ u.access = t.access ∧ (u.isOpen → t.isOpen ∧
        e.ending? ≠ some j ∧ Replays t.working (e.wrote? j).toList u.working) :=
    ⟨u, hj, rfl, fun hu ↦ ⟨hu, he, by rw [hw]; exact .nil _⟩⟩
  have ended {i : Nat} {t : Transaction} (hi : s.transaction? i = some t)
      (hj : (s.ended i t).transaction? j = some u) (he : e.ending? = some i)
      (hw : e.wrote? j = none) : ∃ t, s.transaction? j = some t ∧ u.access = t.access ∧
        (u.isOpen → t.isOpen ∧ e.ending? ≠ some j ∧
          Replays t.working (e.wrote? j).toList u.working) := by
    obtain ⟨v, hv, ha, ho⟩ := origin_of_ended hi hj
    refine ⟨v, hv, ha, fun hu ↦ ?_⟩
    obtain ⟨hij, rfl⟩ := ho hu
    exact ⟨hu, by simpa [he] using hij, by rw [hw]; exact .nil _⟩
  cases h with
  | begun access hl =>
    rw [transaction?_opened] at hj
    split_ifs at hj with hl
    · cases hj
      exact .inl ⟨access, rfl, hl, rfl⟩
    · exact .inr (same hj nofun rfl)
  | read r hi ht => exact .inr (same hj nofun rfl)
  | @written α _ i t w a rows hi ht ha hw =>
    rw [transaction?_put hi] at hj
    split_ifs at hj with hij
    · cases hj
      have hr : Replays t.working [⟨w, a⟩] rows := (Replays.nil t.working).concat hw
      refine .inr ⟨t, hij ▸ hi, rfl, fun _ ↦ ⟨ht, nofun, ?_⟩⟩
      simpa [Event.wrote?, hij] using hr
    · exact .inr (same hj nofun (if_neg hij))
  | unwritten w err hi ht => exact .inr (same hj nofun rfl)
  | committed hi ht => exact .inr (ended hi hj rfl rfl)
  | conflict hi ht => exact .inr (ended hi hj rfl rfl)
  | rolledBack hi ht => exact .inr (ended hi hj rfl rfl)
  | @finished _ i t _ hi ht ha he =>
    by_cases hij : i = j
    · subst hij
      obtain rfl : t = u := Option.some.inj (hi.symm.trans hj)
      exact .inr ⟨t, hi, rfl, by simp [ht]⟩
    · refine .inr (same hj (fun hej ↦ hij ?_) (wrote?_of_error? he j))
      exact Option.some.inj (ha.symm.trans (asked?_of_ending? hej))
  | @dropped _ i t hi =>
    rw [transaction?_put (s := s.release t) hi] at hj
    split_ifs at hj with hij
    exact .inr (same hj nofun rfl)
  | failCommits n => exact .inr (same hj nofun rfl)

theorem Change.of_ending? (h : Change s e s') (he : e.ending? = some i) :
    ∃ t, s.transaction? i = some t := by
  cases h with
  | committed hi ht | conflict hi ht | rolledBack hi ht =>
    cases he
    exact ⟨_, hi⟩
  | finished hi ht ha =>
    obtain rfl := Option.some.inj (ha.symm.trans (asked?_of_ending? he))
    exact ⟨_, hi⟩
  | _ => cases he

theorem Run.lt_of_ended (h : Run d es s) (he : Ended es i) : i < s.transactions.length := by
  induction h with
  | start => simp [Ended] at he
  | @step es e s s' hr hs ih =>
    have hl : s.transactions.length ≤ s'.transactions.length := by
      rw [hr.length, (hr.step hs).length, accesses_concat, List.length_append]
      omega
    rcases ended_concat.1 he with he | he
    · exact Nat.lt_of_lt_of_le (ih he) hl
    · obtain ⟨t, ht⟩ := hs.change.of_ending? he
      exact Nat.lt_of_lt_of_le (lt_of_transaction? ht) hl

theorem Run.access (h : Run d es s) (hi : s.transaction? i = some t) :
    (accesses es)[i]? = some t.access := by
  induction h generalizing t with
  | start => simp [transaction?] at hi
  | step hr hs ih =>
    rw [accesses_concat]
    rcases hs.change.origin hi with ⟨access, rfl, rfl, rfl⟩ | ⟨u, hu, ha, -⟩
    · rw [hr.length]
      exact List.getElem?_concat_length
    · rw [List.getElem?_append_left (by rw [← hr.length]; exact lt_of_transaction? hu), ih hu, ha]

theorem Run.not_isOpen_of_ended (h : Run d es s) (he : Ended es i)
    (hi : s.transaction? i = some t) : t.isOpen = false := by
  induction h generalizing t with
  | start => simp [transaction?] at hi
  | step hr hs ih =>
    rw [ended_concat] at he
    refine Bool.eq_false_iff.2 fun ht ↦ ?_
    rcases hs.change.origin hi with ⟨access, rfl, rfl, rfl⟩ | ⟨u, hu, -, ho⟩
    -- numbers are not given twice, so what has just been begun is not what was ended before
    · rcases he with he | he
      · exact absurd (hr.lt_of_ended he) (Nat.lt_irrefl _)
      · cases he
    · rcases he with he | he
      · rw [ih he hu] at ho
        exact absurd (ho ht).1 Bool.false_ne_true
      · exact (ho ht).2.1 he

theorem Change.of_wrote? {w : Wrote} (h : Change s e s') (he : e.wrote? i = some w) :
    ∃ t, s.transaction? i = some t ∧ t.isOpen ∧ t.access = .readWrite := by
  cases h with
  | @written α _ j t w a rows hi ht ha hw =>
    simp only [Event.wrote?] at he
    split_ifs at he with hij
    exact ⟨t, hij ▸ hi, ht, ha⟩
  | @finished _ j t e hi ht ha hf =>
    cases e with
    | write j w answer =>
      cases answer with
      | error err => cases he
      | ok a => cases hf
    | _ => cases he
  | _ => cases he

theorem Run.writers (h : Run d es s) (hw : wrote es i ≠ []) :
    (accesses es)[i]? = some .readWrite := by
  induction h with
  | start => exact absurd rfl hw
  | @step es e s s' hr hs ih =>
    rw [wrote_concat] at hw
    have hi : (accesses es)[i]? = some .readWrite := by
      cases he : e.wrote? i with
      | none => exact ih (by simpa [he] using hw)
      | some w =>
        obtain ⟨t, ht, -, ha⟩ := hs.change.of_wrote? he
        rw [hr.access ht, ha]
    obtain ⟨hl, -⟩ := List.getElem?_eq_some_iff.1 hi
    rw [accesses_concat, List.getElem?_append_left hl, hi]

theorem Run.wrote_eq_nil (h : Run d es s) (hi : s.transactions.length ≤ i) : wrote es i = [] := by
  refine Classical.byContradiction fun hw ↦ ?_
  have hl := (List.getElem?_eq_some_iff.1 (h.writers hw)).1
  rw [← h.length] at hl
  omega

theorem Change.committed_eq (h : Change s e s') (he : e.committed? = none) :
    s'.database.committed = s.database.committed := by
  cases h <;> first | rfl | cases he

theorem Change.of_committed? (h : Change s e s') (he : e.committed? = some i) :
    e.ending? = some i ∧ ∃ t, s.transaction? i = some t ∧ t.isOpen ∧
      s'.database.committed = t.working := by
  cases h with
  | committed hi ht =>
    cases he
    exact ⟨rfl, _, hi, ht, rfl⟩
  | @finished _ j t e hi ht ha hf =>
    cases e with
    | commit j answer =>
      cases answer with
      | error err => cases he
      | ok a => cases hf
    | _ => cases he
  | _ => cases he

/-- An open transaction sees the stored rows, changed by what it has written itself. -/
theorem Run.view (h : Run d es s) (hi : s.transaction? i = some t) (ht : t.isOpen) :
    Replays s.database.committed (wrote es i) t.working := by
  induction h generalizing t with
  | start => simp [transaction?] at hi
  | @step es e s s' hr hs ih =>
    rw [wrote_concat]
    rcases hs.change.origin hi with ⟨access, rfl, rfl, rfl⟩ | ⟨u, hu, -, ho⟩
    · rw [hr.wrote_eq_nil (Nat.le_refl _), hs.change.committed_eq rfl]
      exact .nil _
    · obtain ⟨huo, he, hw⟩ := ho ht
      -- nobody else can have committed anything, as the lock was held here
      have hc : s'.database.committed = s.database.committed := by
        cases hk : e.committed? with
        | none => exact hs.change.committed_eq hk
        | some k =>
          obtain ⟨hke, v, hv, hvo, -⟩ := hs.change.of_committed? hk
          rw [hr.guarded.unique hu huo hv hvo] at hke
          exact absurd hke he
      rw [hc]
      exact (ih hu huo).append hw

/-- The stored rows come from the committed transactions, as if each had been alone. -/
theorem Run.rows (h : Run d es s) :
    Replays d.committed ((committers es).flatMap (wrote es)) s.database.committed := by
  induction h with
  | start => exact .nil _
  | @step es e s s' hr hs ih =>
    -- who has committed is not open any more, and writes nothing after that
    have hw : (committers es).flatMap (wrote (es ++ [e])) = (committers es).flatMap (wrote es) := by
      refine List.flatMap_congr fun i hi ↦ ?_
      cases hk : e.wrote? i with
      | none => simp [wrote_concat, hk]
      | some w =>
        obtain ⟨t, ht, hto, -⟩ := hs.change.of_wrote? hk
        rw [hr.not_isOpen_of_ended (ended_of_mem_committers hi) ht] at hto
        cases hto
    rw [committers_concat, List.flatMap_append, hw]
    cases hk : e.committed? with
    | none => simpa [hs.change.committed_eq hk] using ih
    | some k =>
      obtain ⟨-, t, ht, hto, hc⟩ := hs.change.of_committed? hk
      have hkw : wrote (es ++ [e]) k = wrote es k := by
        rw [wrote_concat, wrote?_of_committed? hk]
        exact List.append_nil _
      rw [hc]
      simpa [hkw] using ih.append (hr.view ht hto)

theorem Run.serial_eq (h : Run d es s) : serial es = (committers es).flatMap (wrote es) := by
  unfold serial
  induction committers es with
  | nil => rfl
  | cons i is ih =>
    by_cases hi : (accesses es)[i]? = some .readWrite
    · simp only [List.filter_cons, hi, decide_true, if_true, List.flatMap_cons, ih]
    · have hw : wrote es i = [] := Classical.byContradiction fun hw ↦ hi (h.writers hw)
      simp only [List.filter_cons, hi, decide_false, Bool.false_eq_true, if_false,
        List.flatMap_cons, hw, List.nil_append, ih]

theorem Guarded.locked_iff (h : s.Guarded) :
    s.locked ↔ ∃ i t, s.transaction? i = some t ∧ t.isOpen := by
  cases h with
  | free hl hn =>
    simp only [hl, Bool.false_eq_true, false_iff, not_exists, not_and]
    exact fun i t hi ht ↦ absurd ht (by simp [hn i t hi])
  | held hl hi ht hn => exact ⟨fun _ ↦ ⟨_, _, hi, ht⟩, fun _ ↦ hl⟩

theorem Change.eq_of_error (h : Change s e s') (he : e.isRow) {err : StoreError}
    (herr : e.error? = some err) : s' = s := by
  cases h with
  | unwritten w err hi ht => rfl
  | finished hi ht ha hf => rfl
  | read r hi ht => rfl
  | written hi ht ha hw => cases herr
  | _ => cases he

theorem Change.of_not_isOpen (h : Change s e s') (hi : e.asked? = some i)
    (hn : ∀ t, s.transaction? i = some t → t.isOpen = false) :
    e.error? = some .finished ∧ s' = s := by
  cases h with
  | finished hj ht ha hf => exact ⟨hf, rfl⟩
  | read r hj ht | written hj ht ha hw | unwritten w err hj ht | committed hj ht
  | conflict hj ht | rolledBack hj ht =>
    cases hi
    rw [hn _ hj] at ht
    cases ht
  | _ => cases hi

/-- Transactions are open one at a time, and it is as if those that were committed had been done one
after the other. Each reads what is stored and what it has written itself. What it is refused leaves
no trace, and once its end has been tried it is refused everything. -/
theorem serial_and_final (h : Run d es s) :
    (∀ i j t u, s.transaction? i = some t → t.isOpen → s.transaction? j = some u → u.isOpen →
      j = i) ∧
    (s.locked ↔ ∃ i t, s.transaction? i = some t ∧ t.isOpen) ∧
    (∀ (α : Type) i t (r : Reading α) answer s', s.transaction? i = some t → t.isOpen →
      Step s (.read i r answer) s' → ∃ rows, Replays s.database.committed (wrote es i) rows ∧
        answer = .ok (r.of rows)) ∧
    (∀ e err s', Step s e s' → e.isRow → e.error? = some err → s' = s) ∧
    Replays d.committed (serial es) s.database.committed ∧
    (∀ i e s', Ended es i → Step s e s' → e.asked? = some i →
      e.error? = some .finished ∧ s' = s) ∧
    (∀ i s', Ended es i → Step s (.drop i) s' → s'.database = s.database ∧ s'.locked = s.locked ∧
      ∀ j, j ≠ i → s'.transaction? j = s.transaction? j) := by
  refine ⟨fun i j t u ↦ h.guarded.unique, h.guarded.locked_iff, ?_, ?_, h.serial_eq ▸ h.rows, ?_,
    ?_⟩
  · intro α i t r answer s' hi ht hs
    refine ⟨t.working, h.view hi ht, ?_⟩
    cases hs with
    | @read _ _ _ u _ hu =>
      obtain rfl : t = u := Option.some.inj (hi.symm.trans hu)
      rw [r.work_eq, Work.read_apply ht]
  · intro e err s' hs he herr
    exact hs.change.eq_of_error he herr
  · intro i e s' he hs hi
    exact hs.change.of_not_isOpen hi fun t ↦ h.not_isOpen_of_ended he
  · intro i s' he hs
    cases hs with
    | @drop _ _ t hi =>
      rw [release_of_ended (h.not_isOpen_of_ended he hi)]
      exact ⟨rfl, rfl, fun j hj ↦ by rw [transaction?_put hi, if_neg hj.symm]⟩

def ann : User := ⟨⟨1⟩, "ann"⟩

def rivals : List Event := [
  .begin .readWrite, .write 0 (.user "ann") (.ok ann), .commit 0 (.ok ()),
  .begin .readWrite, .write 1 (.user "ann") (.error (.userExists "ann")),
  .write 1 (.user "bob") (.ok ⟨⟨2⟩, "bob"⟩), .failCommits 1,
  .commit 1 (.error Transaction.conflict)]

def afterRivals : SharedStore where
  database.committed := { users := [ann], lastUser := 1 }
  transactions := [
    some ⟨{ users := [ann], lastUser := 1 }, .readWrite, false⟩,
    some ⟨{ users := [ann, ⟨⟨2⟩, "bob"⟩], lastUser := 2 }, .readWrite, false⟩]

theorem serial_and_final_rivals :
    Run {} rivals afterRivals ∧
      Replays {} [⟨.user "ann", ann⟩] afterRivals.database.committed ∧
      ∀ e s', Step afterRivals e s' → e.asked? = some 1 →
        e.error? = some .finished ∧ s' = afterRivals := by
  have h₁ := (Run.start (d := {})).step (.begin .readWrite rfl)
  have h₂ := h₁.step (.write (i := 0) (.user "ann") rfl)
  have h₃ := h₂.step (.commit (i := 0) rfl)
  have h₄ := h₃.step (.begin .readWrite rfl)
  have h₅ := h₄.step (.write (i := 1) (.user "ann") rfl)
  have h₆ := h₅.step (.write (i := 1) (.user "bob") rfl)
  have h₇ := h₆.step (.failCommits 1)
  have h₈ := h₇.step (.commit (i := 1) rfl)
  have h : Run {} rivals afterRivals := h₈
  obtain ⟨-, -, -, -, hrows, hfinal, -⟩ := serial_and_final h
  have he : Ended rivals 1 := ⟨.commit 1 (.error Transaction.conflict), by simp [rivals], rfl⟩
  exact ⟨h, hrows, fun e s' ↦ hfinal 1 e s' he⟩

end SharedStore

end Gatehouse
