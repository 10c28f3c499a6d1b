import Gatehouse.Proofs.Json.Gathering
import Gatehouse.Proofs.Json.Reading

namespace Gatehouse.Json

variable {σ α β : Type} {form : Form} {depth : Nat} {name tag : String}

theorem numberlessList_map {w : α → Value} (h : ∀ a, (w a).isNumberless) (as : List α) :
    numberlessList (as.map w) := by
  induction as with
  | nil => rfl
  | cons a as ih => rw [List.map_cons, numberlessList, h, ih]; rfl

namespace Decoder

variable {d : Decoder α} {v : Value} {a : α} {w : α → Value} {as : List α}

/-- Whatever document a value comes in, it is taken for `a`. -/
def Recovers (d : Decoder α) (v : Value) (a : α) : Prop :=
  ∀ form, d (Node.ofValue form v) = .ok a

theorem Recovers.run_compact (h : d.Recovers v a) (hn : v.isNumberless) :
    d.run (Octets.ofText v.compact) = .ok a := by
  rw [Json.run_compact d hn]
  exact h .text

theorem recovers_text (s : String) : text.Recovers (.text s) s := fun _ ↦ rfl

theorem Recovers.list (h : ∀ a ∈ as, d.Recovers (w a) a) :
    d.list.Recovers (.list (as.map w)) as := by
  intro form
  have hitems (i : Nat) : d.items i (Items.ofValues form (as.map w)) = .ok as := by
    induction as generalizing i with
    | nil => rfl
    | cons a as ih =>
      have hhead := h a List.mem_cons_self form
      have hrest := ih (fun b hb ↦ h b (List.mem_cons_of_mem a hb)) (i + 1)
      rw [List.map_cons, Items.ofValues, items, hhead, under, hrest]
      rfl
  exact hitems 0

end Decoder

open Decoder (Recovers)

namespace Fields

variable {f : Fields σ α} {a : α} {b : β} {ms : List (String × Value)} {d : Decoder α} {v : Value}

/-- Members of an object that are fields of a record, and what they amount to. -/
structure Takes (f : Fields σ α) (ms : List (String × Value)) (a : α) : Prop where
  named : ∀ m ∈ ms, m.1 ∈ f.names.map Prod.fst
  read : ∀ form, ∃ s, f.ofMembers f.start (Members.ofValues form ms) = .ok s ∧ f.finish s = .ok a

def nodes (form : Form) (ms : List (String × Value)) : List (String × Node) :=
  ms.map fun m ↦ (m.1, Node.ofValue form m.2)

theorem named_nodes (form : Form) (ms : List (String × Value)) :
    Members.named (nodes form ms) = Members.ofValues form ms := by
  induction ms with
  | nil => rfl
  | cons m ms ih =>
    rw [Members.ofValues, ← ih]
    rfl

theorem takes_iff : f.Takes ms a ↔
    (∀ m ∈ ms, m.1 ∈ f.names.map Prod.fst) ∧ ∀ form, f.Gives (nodes form ms) a := by
  constructor
  · rintro ⟨hnamed, hread⟩
    refine ⟨hnamed, fun form ↦ ?_⟩
    obtain ⟨s, hs, ha⟩ := hread form
    obtain ⟨ps, hps, hgathers, -⟩ := exists_of_ofMembers _ hs
    rw [← named_nodes] at hps
    rw [Members.named_injective hps]
    exact ⟨s, hgathers, ha⟩
  · rintro ⟨hnamed, hgives⟩
    refine ⟨hnamed, fun form ↦ ?_⟩
    obtain ⟨s, hgathers, ha⟩ := hgives form
    refine ⟨s, ?_, ha⟩
    rw [← named_nodes]
    refine hgathers.ofMembers fun p hp hnone ↦ ?_
    obtain ⟨m, hm, rfl⟩ := List.mem_map.1 hp
    exact absurd (hnamed m hm) (number?_eq_none_iff.1 hnone)

theorem takes_single {needed : Bool} {absent : Except Fault α} (h : d.Recovers v a) :
    (single name needed d absent).Takes [(name, v)] a :=
  takes_iff.2 ⟨by simp [single], fun form ↦
    gives_single.2 (.inl (.here rfl (h form) (by simp)))⟩

theorem Takes.field {needed : Bool} {d : Decoder β} {absent : Except Fault β}
    (hf : f.Takes ms a) (h : d.Recovers v b) (hn : name ∉ f.names.map Prod.fst) :
    (f.and (single name needed d absent)).Takes (ms ++ [(name, v)]) (a, b) := by
  obtain ⟨hnamed, hgives⟩ := takes_iff.1 hf
  refine takes_iff.2 ⟨fun m hm ↦ ?_, fun form ↦ (gives_field hn).2 ?_⟩
  · have hnames : (f.and (single name needed d absent)).names.map Prod.fst =
        f.names.map Prod.fst ++ [name] := List.map_append
    rw [hnames]
    refine List.mem_append.2 ((List.mem_append.1 hm).imp (hnamed m) fun hm ↦ ?_)
    rw [List.mem_singleton.1 hm]
    exact List.mem_singleton_self name
  · have hlast : nodes form (ms ++ [(name, v)]) = nodes form ms ++ [(name, Node.ofValue form v)] :=
      List.map_append
    rw [hlast]
    refine ⟨(hgives form).append_pass (number?_eq_none_iff.2 hn) _, .inl (.last ?_ rfl (h form))⟩
    rintro p hp rfl
    obtain ⟨m, hm, rfl⟩ := List.mem_map.1 hp
    exact hn (hnamed m hm)

theorem Takes.map (hf : f.Takes ms a) (w : α → β) : (f.map w).Takes ms (w a) :=
  takes_iff.2 ⟨hf.named, fun form ↦ gives_map.2 ⟨a, (takes_iff.1 hf).2 form, rfl⟩⟩

theorem Takes.record (hf : f.Takes ms a) (name : String) :
    (f.record name).Recovers (.object ms) a := by
  intro form
  obtain ⟨s, hs, ha⟩ := hf.read form
  rw [Node.ofValue, Fields.record, hs]
  exact mapError_eq_ok.2 ha

end Fields

def Value.IsWithin (depth : Nat) (v : Value) : Prop :=
  ∀ form, (Node.ofValue form v).value depth = .ok v

namespace Value

variable {v : Value} {vs : List Value} {ms : List (String × Value)}

theorem isWithin_text (depth : Nat) (s : String) : IsWithin depth (.text s) := fun _ ↦ rfl

theorem isWithin_list (h : ∀ v ∈ vs, v.IsWithin (depth + 1)) : IsWithin (depth + 2) (.list vs) := by
  intro form
  have hitems : (Items.ofValues form vs).values (depth + 1) = .ok vs := by
    induction vs with
    | nil => rfl
    | cons v vs ih =>
      have hhead := h v List.mem_cons_self form
      have hrest := ih fun w hw ↦ h w (List.mem_cons_of_mem v hw)
      rw [Items.ofValues, Items.values, hhead, hrest]
      rfl
  rw [Node.ofValue, Node.value, if_neg (by omega), Nat.add_sub_cancel (m := 1), hitems]
  rfl

theorem values_ofValues (form : Form) (h : ∀ m ∈ ms, m.2.IsWithin depth) :
    (Members.ofValues form ms).values depth = .ok ms := by
  induction ms with
  | nil => rfl
  | cons m ms ih =>
    have hhead := h m List.mem_cons_self form
    have hrest := ih fun n hn ↦ h n (List.mem_cons_of_mem m hn)
    rw [Members.ofValues, Members.values, hhead, hrest]
    rfl

theorem isWithin_object (h : ∀ m ∈ ms, m.2.IsWithin (depth + 1)) :
    IsWithin (depth + 2) (.object ms) := by
  intro form
  have hmembers := values_ofValues form h
  rw [Node.ofValue, Node.value, if_neg (by omega)]
  exact congrArg (Functor.map Value.object) hmembers

end Value

namespace Variant

variable {vs : List (Variant α)} {x : Variant α} {a : α} {ms : List (String × Value)}

theorem split_ofValues (y : Option (Variant α)) (others : List (String × Value))
    (hn : ∀ m ∈ ms, m.1 ≠ tag) (hs : ∀ m ∈ ms, m.2.IsWithin depth) :
    split tag vs depth y others (Members.ofValues form ms) = .ok (y, others ++ ms) := by
  induction ms generalizing others with
  | nil => rw [List.append_nil]; rfl
  | cons m ms ih =>
    obtain ⟨k, v⟩ := m
    have hk : k ≠ tag := hn _ List.mem_cons_self
    have hv : (Node.ofValue form v).value depth = .ok v := hs _ List.mem_cons_self form
    have hrest := ih (others ++ [(k, v)]) (fun m hm ↦ hn m (List.mem_cons_of_mem _ hm))
      (fun m hm ↦ hs m (List.mem_cons_of_mem _ hm))
    rw [List.append_assoc, List.singleton_append] at hrest
    rw [Members.ofValues, split]
    simp [here, hk, hv, hrest, bind, Except.bind]

/-- The tag stands first when a tagged record is written. -/
theorem recovers {label : String} (hx : vs.find? (fun v ↦ v.tag = label) = some x)
    (hn : ∀ m ∈ ms, m.1 ≠ tag) (hs : ∀ m ∈ ms, m.2.IsWithin depth)
    (h : x.decode.Recovers (.object ms) a) :
    (decoder tag name vs depth).Recovers (.object ((tag, .text label) :: ms)) a := by
  intro form
  have htag : ofTag vs (.text (.ok label)) = .ok x := by
    simp only [ofTag, here, mapError_ok, bind, Except.bind, hx, pure, Except.pure]
  have hsplit : split tag vs depth none []
      (.more (.ok tag) (.text (.ok label)) (Members.ofValues form ms)) = .ok (some x, ms) := by
    have hrest : split tag vs depth (some x) [] (Members.ofValues form ms) = .ok (some x, ms) :=
      split_ofValues (some x) [] hn hs
    rw [split]
    simpa [here, htag, bind, Except.bind] using hrest
  rw [Node.ofValue, Members.ofValues, Node.ofValue, decoder, hsplit]
  exact h .content

end Variant

end Gatehouse.Json
