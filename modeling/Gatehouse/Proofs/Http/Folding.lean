import Mathlib.Data.List.Induction
import Gatehouse.Http.Folded
import Gatehouse.Proofs.Text.Splitting
import Gatehouse.Proofs.Text.Tables

namespace Gatehouse.Http

variable {β : Type} {fs : Fields} {name : String}

def valuesOf (name : String) (fs : Fields) : List String :=
  (fs.filter fun f ↦ Text.lower f.1 = name).map Prod.snd

@[simp] theorem valuesOf_append (name : String) (fs fs' : Fields) :
    valuesOf name (fs ++ fs') = valuesOf name fs ++ valuesOf name fs' := by simp [valuesOf]

@[simp] theorem valuesOf_nil (name : String) : valuesOf name [] = [] := rfl

theorem valuesOf_cons (name : String) (f : String × String) (fs : Fields) :
    valuesOf name (f :: fs) =
      (if Text.lower f.1 = name then [f.2] else []) ++ valuesOf name fs := by
  by_cases h : Text.lower f.1 = name <;> simp [valuesOf, h]

theorem valuesOf_singleton (name : String) (f : String × String) :
    valuesOf name [f] = if Text.lower f.1 = name then [f.2] else [] := by
  rw [valuesOf_cons, valuesOf_nil, List.append_nil]

theorem valuesOf_eq_nil (h : ∀ f ∈ fs, Text.lower f.1 ≠ name) : valuesOf name fs = [] := by
  rw [valuesOf, List.map_eq_nil_iff, List.filter_eq_nil_iff]
  exact fun f hf ↦ by simpa using h f hf

theorem valuesOf_filter (keeps : String → Bool) (name : String) (fs : Fields) :
    valuesOf name (fs.filter fun f ↦ keeps (Text.lower f.1)) =
      if keeps name then valuesOf name fs else [] := by
  unfold valuesOf
  rw [List.filter_filter]
  split
  · next h =>
    congr 1
    refine List.filter_congr fun f _ ↦ ?_
    by_cases hf : Text.lower f.1 = name <;> simp [hf, h]
  · next h =>
    rw [List.map_eq_nil_iff, List.filter_eq_nil_iff]
    intro f _
    by_cases hf : Text.lower f.1 = name <;> simp [hf, h]

theorem valuesOf_map (key name : String) (vs : List String) :
    valuesOf name (vs.map fun v ↦ (key, v)) = if Text.lower key = name then vs else [] := by
  by_cases h : Text.lower key = name <;> simp [valuesOf, List.filter_map, Function.comp_def, h]

def folded? (name : String) (fs : Fields) : Option String :=
  if valuesOf name fs = [] then none
  else some (Text.joined (separator name) (valuesOf name fs))

section Gather

variable {α : Type} (take : String → Option α → String → α)

/-- Headers put into a table under their names, one after the other. -/
def gather (fs : Fields) : List (String × α) :=
  fs.foldl (fun table f ↦
    let name := Text.lower f.1
    Text.alterSorted name (fun before ↦ take name before f.2) table) []

theorem gather_concat (fs : Fields) (f : String × String) :
    gather take (fs ++ [f]) = Text.alterSorted (Text.lower f.1)
      (fun before ↦ take (Text.lower f.1) before f.2) (gather take fs) := by
  rw [gather, List.foldl_append]
  rfl

theorem sorted_gather (fs : Fields) : Text.Sorted (gather take fs) := by
  induction fs using List.reverseRecOn with
  | nil => exact List.Pairwise.nil
  | append_singleton fs f ih =>
    rw [gather_concat]
    exact ih.alterSorted

theorem exists_of_mem_gather {e : String × α} (h : e ∈ gather take fs) :
    ∃ f ∈ fs, e.1 = Text.lower f.1 := by
  induction fs using List.reverseRecOn with
  | nil => cases h
  | append_singleton fs f ih =>
    rw [gather_concat] at h
    rcases Text.mem_alterSorted h with he | he
    · exact ⟨f, List.mem_append_right fs List.mem_cons_self, he⟩
    · obtain ⟨f', hf, he⟩ := ih he
      exact ⟨f', List.mem_append_left [f] hf, he⟩

/-- What is in the table under a name has come of the values of that header alone. -/
theorem lookup?_gather (name : String) (fs : Fields) :
    Text.lookup? name (gather take fs) =
      (valuesOf name fs).foldl (fun before v ↦ some (take name before v)) none := by
  -- from the end, as headers are taken from the left
  induction fs using List.reverseRecOn with
  | nil => rfl
  | append_singleton fs f ih =>
    rw [gather_concat, (sorted_gather take fs).lookup?_alterSorted, valuesOf_append,
      valuesOf_singleton, List.foldl_append]
    by_cases hn : Text.lower f.1 = name
    · subst hn
      rw [if_pos rfl, if_pos rfl, ih]
      rfl
    · rw [if_neg (Ne.symm hn), if_neg hn, ih]
      rfl

/-- If what a header's values come to is known for one value, and for one value more, it is known
for all that are there. -/
theorem lookup?_gather_of {name : String} (all : List String → α)
    (hone : ∀ v, all [v] = take name none v)
    (hmore : ∀ vs v, vs ≠ [] → all (vs ++ [v]) = take name (some (all vs)) v) (fs : Fields) :
    Text.lookup? name (gather take fs) =
      if valuesOf name fs = [] then none else some (all (valuesOf name fs)) := by
  rw [lookup?_gather]
  induction valuesOf name fs using List.reverseRecOn with
  | nil => rfl
  | append_singleton vs v ih =>
    rw [List.foldl_concat, ih, if_neg (List.concat_ne_nil v vs)]
    by_cases hvs : vs = []
    · rw [if_pos hvs, hvs, List.nil_append, hone]
    · rw [if_neg hvs, hmore vs v hvs]

end Gather

theorem fold_eq_gather (fs : Fields) : fold fs = gather (fun name before value ↦ match before with
    | some before => before ++ separator name ++ value
    | none => value) fs := rfl

theorem grouped_eq_gather (fs : Fields) :
    grouped fs = gather (fun _ before value ↦ match before with
    | some values => values ++ [value]
    | none => [value]) fs := rfl

theorem sorted_fold (fs : Fields) : Text.Sorted (fold fs) := by
  rw [fold_eq_gather]
  exact sorted_gather _ fs

theorem sorted_grouped (fs : Fields) : Text.Sorted (grouped fs) := by
  rw [grouped_eq_gather]
  exact sorted_gather _ fs

theorem exists_of_mem_fold {e : String × String} (h : e ∈ fold fs) :
    ∃ f ∈ fs, e.1 = Text.lower f.1 := by
  rw [fold_eq_gather] at h
  exact exists_of_mem_gather _ h

theorem lower_of_mem_fold {e : String × String} (h : e ∈ fold fs) : Text.lower e.1 = e.1 := by
  obtain ⟨f, -, hf⟩ := exists_of_mem_fold h
  rw [hf, Text.lower_lower]

theorem lookup?_fold (name : String) (fs : Fields) :
    Text.lookup? name (fold fs) = folded? name fs := by
  rw [fold_eq_gather, lookup?_gather_of _ (Text.joined (separator name)) (fun _ ↦ rfl), folded?]
  intro vs v hvs
  exact Text.joined_concat hvs v

theorem lookup?_grouped (name : String) (fs : Fields) :
    Text.lookup? name (grouped fs) =
      if valuesOf name fs = [] then none else some (valuesOf name fs) := by
  rw [grouped_eq_gather, lookup?_gather_of _ id (fun _ ↦ rfl) (fun _ _ _ ↦ rfl)]
  rfl

theorem joined_grouped (fs : Fields) :
    (grouped fs).map (fun g ↦ (g.1, Text.joined (separator g.1) g.2)) = fold fs := by
  apply ((sorted_grouped fs).map fun name ↦ Text.joined (separator name)).ext (sorted_fold fs)
  intro name
  rw [Text.lookup?_map (fun name ↦ Text.joined (separator name)), lookup?_grouped, lookup?_fold,
    folded?]
  split <;> rfl

theorem filter_fold (name : String) (fs : Fields) :
    ((fold fs).filter fun f ↦ Text.lower f.1 = name) =
      (folded? name fs).toList.map fun v ↦ (name, v) := by
  rw [← lookup?_fold, ← (sorted_fold fs).filter_key]
  refine List.filter_congr fun e he ↦ ?_
  rw [lower_of_mem_fold he]

theorem valuesOf_fold (name : String) (fs : Fields) :
    valuesOf name (fold fs) = (folded? name fs).toList := by
  rw [valuesOf, filter_fold, List.map_map]
  exact List.map_id _

theorem mem_fold {value : String} : (name, value) ∈ fold fs ↔ folded? name fs = some value := by
  rw [(sorted_fold fs).mem_iff, lookup?_fold]

theorem folded?_of_mem_fold {f : String × String} (h : f ∈ fold fs) :
    folded? f.1 fs = some f.2 := mem_fold.1 h

theorem mem_keys_fold : name ∈ (fold fs).map Prod.fst ↔ folded? name fs ≠ none := by
  rw [List.mem_map, Option.ne_none_iff_exists']
  constructor
  · rintro ⟨f, hf, rfl⟩
    exact ⟨f.2, folded?_of_mem_fold hf⟩
  · intro h
    obtain ⟨v, hv⟩ := h
    exact ⟨(name, v), mem_fold.2 hv, rfl⟩

theorem folded?_eq_some {value : String} : folded? name fs = some value ↔
    valuesOf name fs ≠ [] ∧ value = Text.joined (separator name) (valuesOf name fs) := by
  rw [folded?, Option.ite_none_left_eq_some, Option.some.injEq]
  exact and_congr_right fun _ ↦ eq_comm

theorem folded?_eq_none : folded? name fs = none ↔ valuesOf name fs = [] := by simp [folded?]

theorem keys_grouped (fs : Fields) : (grouped fs).map Prod.fst = (fold fs).map Prod.fst := by
  rw [← joined_grouped, List.map_map]
  rfl

theorem flatMap_eq_self {as : List β} {f : β → List β} (h : ∀ a ∈ as, f a = [a]) :
    as.flatMap f = as := (List.flatMap_congr h).trans (List.flatMap_singleton' as)

/-- A way to read the value of a header as a list, of which the parts between separators can be
read one by one. -/
structure Listing (sep : String) (read : String → List β) : Prop where
  empty : read "" = []
  append (s t : String) : read (s ++ sep ++ t) = read s ++ read t

namespace Listing

variable {sep : String} {read : String → List β}

theorem joined (h : Listing sep read) (ss : List String) :
    read (Text.joined sep ss) = ss.flatMap read := by
  induction ss using Text.joined.induct with
  | case1 => exact h.empty
  | case2 s => simp [Text.joined]
  | case3 s t rest ih =>
    rw [Text.joined, h.append, ih]
    rfl

theorem flatMap_folded? (h : Listing (separator name) read) (fs : Fields) :
    (folded? name fs).toList.flatMap read = (valuesOf name fs).flatMap read := by
  unfold folded?
  split
  · next hv => rw [hv]; rfl
  · simp [h.joined]

theorem read_folded? (h : Listing (separator name) read) (fs : Fields) :
    read ((folded? name fs).getD "") = (valuesOf name fs).flatMap read := by
  rw [← h.flatMap_folded?]
  cases folded? name fs with
  | none => exact h.empty
  | some v => simp

end Listing

end Gatehouse.Http
