import Mathlib.Data.List.Nodup
import Gatehouse.Operation.Tolerances
import Gatehouse.Proofs.Session.Taints
import Gatehouse.Session

namespace Gatehouse.Tolerances

variable {entries entries' earlier : Entries} {slots : Slots} {o p : Operation}
variable {t t' : Tolerances} {r r' : Except ToleranceError Tolerances}

def operations (entries : Entries) : List Operation := entries.map Prod.fst

def FirstRepeated (entries : Entries) (o : Operation) : Prop :=
  ∃ earlier names later, entries = earlier ++ (o, names) :: later ∧
    (operations earlier).Nodup ∧ o ∈ operations earlier

def FirstAbsent (entries : Entries) (o : Operation) : Prop :=
  o ∉ operations entries ∧ ∃ before after, Operation.all = before ++ o :: after ∧
    ∀ p ∈ before, p ∈ operations entries

/-- The same entries in another order; the taints of each of them may be given in another order,
and more often. -/
def Rearranged (entries entries' : Entries) : Prop :=
  (operations entries').Perm (operations entries) ∧
    ∀ o names names', (o, names) ∈ entries → (o, names') ∈ entries' →
      ∀ name, name ∈ names' ↔ name ∈ names

theorem mem_operations : o ∈ operations entries ↔ ∃ names, (o, names) ∈ entries := by
  simp [operations]

theorem operations_append (earlier later : Entries) :
    operations (earlier ++ later) = operations earlier ++ operations later := List.map_append

theorem nodup_concat (h : (operations earlier).Nodup) (ho : o ∉ operations earlier)
    (names : List String) : (operations (earlier ++ [(o, names)])).Nodup := by
  rw [operations_append, List.nodup_append']
  refine ⟨h, List.nodup_singleton o, ?_⟩
  intro p hp hp'
  obtain rfl : p = o := List.mem_singleton.1 hp'
  exact ho hp

/-- The slots hold what some entries say, of which none repeats another one. -/
structure Filled (slots : Slots) (earlier : Entries) : Prop where
  nodup : (operations earlier).Nodup
  slot_iff : ∀ o taints, slots o = some taints ↔
    ∃ names, (o, names) ∈ earlier ∧ taints = .ofList names

namespace Filled

theorem start : Filled (fun _ ↦ none) [] := ⟨List.nodup_nil, by simp⟩

theorem eq_none_iff (h : Filled slots earlier) : slots o = none ↔ o ∉ operations earlier := by
  rw [mem_operations, Option.eq_none_iff_forall_ne_some]
  constructor
  · rintro hnone ⟨names, hm⟩
    exact hnone _ ((h.slot_iff o _).2 ⟨names, hm, rfl⟩)
  · intro hno taints hslot
    obtain ⟨names, hm, -⟩ := (h.slot_iff o taints).1 hslot
    exact hno ⟨names, hm⟩

theorem put (h : Filled slots earlier) (ho : slots o = none) (names : List String) :
    Filled (slots.put o (.ofList names)) (earlier ++ [(o, names)]) := by
  have hnew : o ∉ operations earlier := h.eq_none_iff.1 ho
  refine ⟨nodup_concat h.nodup hnew names, fun p taints ↦ ?_⟩
  rw [Slots.put]
  split
  · next hp =>
    subst hp
    have hno (other : List String) : (p, other) ∉ earlier := fun hm ↦
      hnew (mem_operations.2 ⟨other, hm⟩)
    simp [hno, eq_comm]
  · next hp => simp [h.slot_iff, hp]

end Filled

/-- Filling goes on to the end, or up to the first entry that repeats an earlier one. -/
theorem fill_cases (h : Filled slots earlier) (later : Entries) :
    (∃ slots', fill slots later = .ok slots' ∧ Filled slots' (earlier ++ later)) ∨
      ∃ o, fill slots later = .error (.duplicate o) ∧ FirstRepeated (earlier ++ later) o := by
  induction later generalizing slots earlier with
  | nil => exact .inl ⟨slots, rfl, by rwa [List.append_nil]⟩
  | cons e later ih =>
    obtain ⟨o, names⟩ := e
    cases ho : slots o with
    | some taints =>
      have hm : o ∈ operations earlier := by
        apply Decidable.not_not.1
        rw [← h.eq_none_iff, ho]
        exact Option.some_ne_none taints
      refine .inr ⟨o, ?_, earlier, names, later, rfl, h.nodup, hm⟩
      simp only [fill, ho]
    | none =>
      have hrest := ih (h.put ho names)
      rw [List.append_assoc, List.singleton_append] at hrest
      simpa only [fill, ho] using hrest

/-- What comes of making a table from entries. -/
inductive Settled (entries : Entries) : Except ToleranceError Tolerances → Prop
  | repeated {o : Operation} : FirstRepeated entries o → Settled entries (.error (.duplicate o))
  | absent {o : Operation} : (operations entries).Nodup → FirstAbsent entries o →
      Settled entries (.error (.missing o))
  | complete {t : Tolerances} : (operations entries).Nodup → (∀ o, o ∈ operations entries) →
      (∀ o names, (o, names) ∈ entries → t.of o = .ofList names) → Settled entries (.ok t)

theorem settled_ofEntries (entries : Entries) : Settled entries (ofEntries entries) := by
  rw [ofEntries]
  rcases fill_cases Filled.start entries with ⟨slots, hfill, h⟩ | ⟨o, hfill, h⟩
  · rw [hfill]
    simp only
    split
    · next o ho =>
      obtain ⟨ho, before, after, hall, hbefore⟩ := List.find?_eq_some_iff_append.1 ho
      refine .absent h.nodup ⟨h.eq_none_iff.1 (Option.isNone_iff_eq_none.1 ho), before, after,
        hall, fun p hp ↦ ?_⟩
      by_contra hno
      simpa [h.eq_none_iff.2 hno] using hbefore p hp
    · next hnone =>
      refine .complete h.nodup (fun o ↦ ?_) fun o names hm ↦ ?_
      · by_contra hno
        have ho := List.find?_eq_none.1 hnone o (Operation.mem_all o)
        exact ho (Option.isNone_iff_eq_none.2 (h.eq_none_iff.2 hno))
      · have hslot : slots o = some (.ofList names) := (h.slot_iff o _).2 ⟨names, hm, rfl⟩
        simp only [hslot, Option.getD_some]
  · rw [hfill]
    exact .repeated h

theorem FirstRepeated.not_nodup (h : FirstRepeated entries o) : ¬(operations entries).Nodup := by
  obtain ⟨earlier, names, later, rfl, -, ho⟩ := h
  rw [operations_append, List.nodup_append']
  rintro ⟨-, -, hd⟩
  exact hd ho List.mem_cons_self

theorem FirstRepeated.unique (h : FirstRepeated entries o) (h' : FirstRepeated entries p) :
    o = p := by
  obtain ⟨earlier, names, later, rfl, hnodup, ho⟩ := h
  obtain ⟨earlier', names', later', he, hnodup', hp⟩ := h'
  -- if one of the two entries came after the other, those before it would repeat an operation
  rcases List.append_eq_append_iff.1 he with ⟨between, rfl, hrest⟩ | ⟨between, rfl, hrest⟩
  · cases between with
    | nil => exact congrArg Prod.fst (List.cons.inj hrest).1
    | cons e between =>
      obtain ⟨rfl, -⟩ := List.cons.inj hrest
      exact absurd hnodup' (FirstRepeated.not_nodup ⟨earlier, names, between, rfl, hnodup, ho⟩)
  · cases between with
    | nil => exact congrArg Prod.fst (List.cons.inj hrest).1.symm
    | cons e between =>
      obtain ⟨rfl, -⟩ := List.cons.inj hrest
      exact absurd hnodup (FirstRepeated.not_nodup ⟨earlier', names', between, rfl, hnodup', hp⟩)

theorem firstAbsent_iff : FirstAbsent entries o ↔
    Operation.all.find? (fun p ↦ p ∉ operations entries) = some o := by
  simp [FirstAbsent, List.find?_eq_some_iff_append]

theorem FirstAbsent.unique (h : FirstAbsent entries o) (h' : FirstAbsent entries p) : o = p :=
  Option.some.inj ((firstAbsent_iff.1 h).symm.trans (firstAbsent_iff.1 h'))

theorem eq_of_complete (ht : ∀ o, o ∈ operations entries)
    (h : ∀ o names, (o, names) ∈ entries → t.of o = .ofList names)
    (h' : ∀ o names, (o, names) ∈ entries → t'.of o = .ofList names) : t = t' := by
  apply Tolerances.ext
  funext o
  obtain ⟨names, hm⟩ := mem_operations.1 (ht o)
  rw [h o names hm, h' o names hm]

theorem Settled.unique (h : Settled entries r) (h' : Settled entries r') : r = r' := by
  cases h with
  | repeated h =>
    cases h' with
    | repeated h' => rw [h.unique h']
    | absent hnodup _ => exact absurd hnodup h.not_nodup
    | complete hnodup _ _ => exact absurd hnodup h.not_nodup
  | absent hnodup h =>
    cases h' with
    | repeated h' => exact absurd hnodup h'.not_nodup
    | absent _ h' => rw [h.unique h']
    | complete _ hall _ => exact absurd (hall _) h.1
  | complete hnodup hall h =>
    cases h' with
    | repeated h' => exact absurd hnodup h'.not_nodup
    | absent _ h' => exact absurd (hall _) h'.1
    | complete _ _ h' => rw [eq_of_complete hall h h']

theorem ofEntries_eq_iff : ofEntries entries = r ↔ Settled entries r := by
  constructor
  · rintro rfl
    exact settled_ofEntries entries
  · exact (settled_ofEntries entries).unique

theorem settled_duplicate_iff : Settled entries (.error (.duplicate o)) ↔ FirstRepeated entries o :=
  ⟨fun | .repeated h => h, .repeated⟩

theorem settled_missing_iff : Settled entries (.error (.missing o)) ↔
    (operations entries).Nodup ∧ FirstAbsent entries o :=
  ⟨fun | .absent hnodup h => ⟨hnodup, h⟩, fun h ↦ .absent h.1 h.2⟩

theorem settled_ok_iff : Settled entries (.ok t) ↔
    (operations entries).Nodup ∧ (∀ o, o ∈ operations entries) ∧
      ∀ o names, (o, names) ∈ entries → t.of o = .ofList names :=
  ⟨fun | .complete hnodup hall h => ⟨hnodup, hall, h⟩, fun h ↦ .complete h.1 h.2.1 h.2.2⟩

theorem exists_settled_ok_iff :
    (∃ t, Settled entries (.ok t)) ↔ ∀ o, (operations entries).count o = 1 := by
  constructor
  · rintro ⟨t, h⟩ o
    obtain ⟨hnodup, hall, -⟩ := settled_ok_iff.1 h
    exact List.count_eq_one_of_mem hnodup (hall o)
  · intro h
    have hnodup : (operations entries).Nodup := List.nodup_iff_count_le_one.2 fun o ↦ (h o).le
    have hall (o : Operation) : o ∈ operations entries :=
      List.count_pos_iff.1 (by rw [h o]; exact Nat.one_pos)
    -- neither error is possible, so that a table is what comes of them
    cases hr : ofEntries entries with
    | ok t => exact ⟨t, ofEntries_eq_iff.1 hr⟩
    | error e =>
      cases ofEntries_eq_iff.1 hr with
      | repeated h' => exact absurd hnodup h'.not_nodup
      | absent _ h' => exact absurd (hall _) h'.1

theorem exists_duplicate_of_not_nodup (h : ¬(operations entries).Nodup) :
    ∃ o, Settled entries (.error (.duplicate o)) := by
  cases hr : ofEntries entries with
  | ok t => exact absurd (settled_ok_iff.1 (ofEntries_eq_iff.1 hr)).1 h
  | error e =>
    cases ofEntries_eq_iff.1 hr with
    | repeated h' => exact ⟨_, .repeated h'⟩
    | absent hnodup _ => exact absurd hnodup h

theorem Settled.rearranged (h : Settled entries (.ok t))
    (hr : Rearranged entries entries') : Settled entries' (.ok t) := by
  obtain ⟨hnodup, hall, hof⟩ := settled_ok_iff.1 h
  obtain ⟨hperm, hnames⟩ := hr
  refine .complete (hperm.nodup_iff.2 hnodup) (fun o ↦ hperm.mem_iff.2 (hall o)) ?_
  intro o names' hm'
  obtain ⟨names, hm⟩ := mem_operations.1 (hall o)
  rw [hof o names hm, Taints.ofList_congr (hnames o names names' hm hm')]

/-- A table is made exactly of entries that name each operation once. It then says of each operation
what its entry says. Other entries are refused for the first one that repeats an earlier one, and
only if there is none, for the first operation without an entry. -/
theorem table_iff_total_and_unambiguous (entries : Entries) :
    ((∃ t, ofEntries entries = .ok t) ↔ ∀ o, (operations entries).count o = 1) ∧
      (¬(operations entries).Nodup → ∃ o, ofEntries entries = .error (.duplicate o)) ∧
      (∀ o, ofEntries entries = .error (.duplicate o) ↔ FirstRepeated entries o) ∧
      (∀ o, ofEntries entries = .error (.missing o) ↔
        (operations entries).Nodup ∧ FirstAbsent entries o) ∧
      ∀ t, ofEntries entries = .ok t →
        (∀ entries', Rearranged entries entries' → ofEntries entries' = .ok t) ∧
        (∀ o names, (o, names) ∈ entries →
          (∀ name, (t.of o).contains name ↔ name ∈ names) ∧
          ∀ x : Session,
            (t.check o x.taints = .ok () ↔ ∀ name, x.hasTaint name → name ∈ names) ∧
            ∀ remaining, t.check o x.taints = .error remaining ↔
              remaining ≠ [] ∧ Text.Ascending remaining ∧
                ∀ name, name ∈ remaining ↔ x.hasTaint name ∧ name ∉ names) ∧
        ∀ o (x : Session) name, t.check o x.taints = .ok () →
          t.check o (x.untaint name).2.taints = .ok () := by
  simp only [ofEntries_eq_iff]
  refine ⟨exists_settled_ok_iff, exists_duplicate_of_not_nodup, fun o ↦ settled_duplicate_iff,
    fun o ↦ settled_missing_iff, ?_⟩
  intro t h
  refine ⟨fun entries' hr ↦ h.rearranged hr, ?_, fun o x name hc ↦ Taints.check_remove hc name⟩
  intro o names hm
  have hof : t.of o = .ofList names := (settled_ok_iff.1 h).2.2 o names hm
  refine ⟨fun name ↦ ?_, fun x ↦ ?_⟩
  · rw [hof, Taints.contains_ofList]
  · rw [show t.check o x.taints = x.taints.check (.ofList names) by rw [check, hof]]
    exact ⟨Taints.check_ofList_eq_ok, fun remaining ↦ Taints.check_ofList_eq_error⟩

-- of two operations that are repeated not the one that comes first, but the one repeated first
example : ofEntries [(.whoAmI, []), (.startLogin, ["b", "a"]), (.startLogin, []), (.whoAmI, [])] =
    .error (.duplicate .startLogin) := rfl

end Gatehouse.Tolerances
