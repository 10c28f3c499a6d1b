import Mathlib.Data.List.Forall2
import Gatehouse.Json.Decode
import Gatehouse.Proofs.Json.Acceptance

namespace Gatehouse.Json

variable {σ τ α β : Type} {name : String} {n : Node} {ps : List (String × Node)}

theorem Node.here_mismatch_ne_ok {a : α} (expected : String) :
    here (n.mismatch expected) ≠ (.ok a : Except Flaw α) := by
  rw [mismatch]
  cases n.found <;> simp [here, bind, Except.bind, throw, throwThe, MonadExceptOf.throw]

namespace Decoder

theorem text_eq_ok {s : String} : text n = .ok s ↔ n = .text (.ok s) := by
  cases n with
  | text t => cases t <;> simp [text, textFor, here]
  | _ => simpa [text, textFor] using Node.here_mismatch_ne_ok _

theorem bool_eq_ok {b : Bool} : bool n = .ok b ↔ n = .bool b := by
  cases n with
  | bool b => simp [bool]
  | _ => simpa [bool] using Node.here_mismatch_ne_ok _

theorem run_eq_ok {d : Decoder α} {o : Octets} {a : α} :
    d.run o = .ok a ↔ d (Document.read o).root = .ok a ∧ (Document.read o).trailing = false := by
  rw [run]
  cases d (Document.read o).root with
  | error e => simp [bind, Except.bind]
  | ok b => cases (Document.read o).trailing <;> simp [bind, Except.bind, here, pure, Except.pure]

end Decoder

inductive Once {α : Type} (P Q : α → Prop) : List α → Prop
  | here {a : α} {as : List α} (hp : P a) (hq : Q a) (h : ∀ b ∈ as, ¬P b) : Once P Q (a :: as)
  | later {a : α} {as : List α} (hp : ¬P a) (h : Once P Q as) : Once P Q (a :: as)

theorem Once.last {P Q : α → Prop} {as : List α} {a : α} (h : ∀ b ∈ as, ¬P b) (hp : P a)
    (hq : Q a) : Once P Q (as ++ [a]) := by
  induction as with
  | nil => exact .here hp hq h
  | cons b as ih =>
    exact .later (h b List.mem_cons_self) (ih fun c hc ↦ h c (List.mem_cons_of_mem b hc))

theorem Once.of_mem {P Q : α → Prop} {as : List α} {a : α} (h : Once P Q as) (ha : a ∈ as)
    (hp : P a) : Q a := by
  induction h with
  | here _ hq h =>
    rcases List.mem_cons.1 ha with rfl | ha
    · exact hq
    · exact absurd hp (h a ha)
  | later hn _ ih =>
    rcases List.mem_cons.1 ha with rfl | ha
    · exact absurd hp hn
    · exact ih ha

theorem forall_not_congr {R : α → β → Prop} {P : α → Prop} {P' : β → Prop} {as : List α}
    {bs : List β} (h : List.Forall₂ R as bs) (hp : ∀ a b, R a b → (P a ↔ P' b)) :
    (∀ a ∈ as, ¬P a) ↔ ∀ b ∈ bs, ¬P' b := by
  induction h with
  | nil => simp
  | cons hr _ ih => simp only [List.forall_mem_cons, hp _ _ hr, ih]

theorem once_congr {R : α → β → Prop} {P Q : α → Prop} {P' Q' : β → Prop} {as : List α}
    {bs : List β} (h : List.Forall₂ R as bs) (hp : ∀ a b, R a b → (P a ↔ P' b))
    (hq : ∀ a b, R a b → (Q a ↔ Q' b)) : Once P Q as ↔ Once P' Q' bs := by
  induction h with
  | nil => constructor <;> rintro ⟨⟩
  | cons hr h ih =>
    constructor
    · rintro (⟨hpa, hqa, hn⟩ | ⟨hpa, hrest⟩)
      · exact .here ((hp _ _ hr).1 hpa) ((hq _ _ hr).1 hqa) ((forall_not_congr h hp).1 hn)
      · exact .later (mt (hp _ _ hr).2 hpa) (ih.1 hrest)
    · rintro (⟨hpa, hqa, hn⟩ | ⟨hpa, hrest⟩)
      · exact .here ((hp _ _ hr).2 hpa) ((hq _ _ hr).2 hqa) ((forall_not_congr h hp).2 hn)
      · exact .later (mt (hp _ _ hr).1 hpa) (ih.2 hrest)

def Members.named (ps : List (String × Node)) : Members := .of (ps.map fun p ↦ (.ok p.1, p.2))

theorem Members.named_injective {ps' : List (String × Node)}
    (h : Members.named ps = .named ps') : ps = ps' := by
  refine List.map_injective_iff.2 ?_ (of_injective h)
  rintro ⟨k, n⟩ ⟨k', n'⟩ he
  simpa using he

namespace Fields

variable {f : Fields σ α} {g : Fields τ β} {s s' : σ} {t t' : τ} {d : Decoder α} {ms : Members}

theorem number?_and (f : Fields σ α) (g : Fields τ β) (name : String) :
    (f.and g).number? name =
      (f.number? name).or ((g.number? name).map (· + f.names.length)) := by
  simp [number?, and, List.idxOf?, List.findIdx?_append]

theorem number?_eq_none_iff : f.number? name = none ↔ name ∉ f.names.map Prod.fst :=
  List.idxOf?_eq_none_iff

theorem lt_of_number? {i : Nat} (h : f.number? name = some i) : i < f.names.length := by
  obtain ⟨hlt, -⟩ := List.findIdx?_eq_some_iff_getElem.1 h
  rwa [List.length_map] at hlt

/-- What is read of a record while its members are gone through. -/
inductive Gathers (f : Fields σ α) : σ → List (String × Node) → σ → Prop
  | nil {s : σ} : Gathers f s [] s
  | pass {s s' : σ} {k : String} {n : Node} {ps : List (String × Node)}
      (hk : f.number? k = none) (h : Gathers f s ps s') : Gathers f s ((k, n) :: ps) s'
  | take {s s₁ s' : σ} {k : String} {n : Node} {ps : List (String × Node)} {i : Nat}
      (hk : f.number? k = some i) (hs : f.seen i s = false) (hr : f.read i n s = .ok s₁)
      (h : Gathers f s₁ ps s') : Gathers f s ((k, n) :: ps) s'

theorem Gathers.ofMembers (h : f.Gathers s ps s')
    (hskip : ∀ p ∈ ps, f.number? p.1 = none → p.2.skip = .ok ()) :
    f.ofMembers s (.named ps) = .ok s' := by
  induction h with
  | nil => rfl
  | @pass _ _ k n ps hk _ ih =>
    have hn := hskip (k, n) List.mem_cons_self hk
    have hrest := ih fun p hp ↦ hskip p (List.mem_cons_of_mem _ hp)
    change Fields.ofMembers f _ (.more (.ok k) n (.named ps)) = _
    simpa [Fields.ofMembers, here, under, hk, hn, bind, Except.bind] using hrest
  | @take _ _ _ k n ps i hk hs hr _ ih =>
    have hrest := ih fun p hp ↦ hskip p (List.mem_cons_of_mem _ hp)
    change Fields.ofMembers f _ (.more (.ok k) n (.named ps)) = _
    simpa [Fields.ofMembers, here, under, hk, hs, hr, bind, Except.bind] using hrest

theorem exists_of_ofMembers : (ms : Members) → {s : σ} → f.ofMembers s ms = .ok s' →
    ∃ ps, ms = .named ps ∧ f.Gathers s ps s' ∧
      ∀ p ∈ ps, f.number? p.1 = none → p.2.skip = .ok ()
  | .done .closed, s, h => by
    cases h
    exact ⟨[], rfl, .nil, by simp⟩
  | .done (.broken _ _ _), s, h => by cases h
  | .keyless _, s, h => by cases h
  | .unpaired key fault, s, h => by
    rw [ofMembers] at h
    obtain ⟨k, -, h⟩ := exists_of_bind h
    split at h <;> cases h
  | .more key n rest, s, h => by
    rw [ofMembers] at h
    obtain ⟨k, hkey, hrest⟩ := exists_of_bind h
    obtain rfl : key = .ok k := by
      cases key with
      | error e => cases hkey
      | ok k' => exact congrArg Except.ok (Except.ok.inj hkey)
    cases hk : f.number? k with
    | none =>
      simp only [hk] at hrest
      obtain ⟨⟨⟩, hn, hrest⟩ := exists_of_bind hrest
      obtain ⟨ps, rfl, hgathers, hskip⟩ := exists_of_ofMembers rest hrest
      have hn : n.skip = .ok () := mapError_eq_ok.1 (mapError_eq_ok.1 hn)
      refine ⟨(k, n) :: ps, rfl, .pass hk hgathers, ?_⟩
      rintro p hp hnone
      rcases List.mem_cons.1 hp with rfl | hp
      · exact hn
      · exact hskip p hp hnone
    | some i =>
      simp only [hk] at hrest
      split at hrest
      · cases hrest
      · next hseen =>
        obtain ⟨s₁, hr, hrest⟩ := exists_of_bind hrest
        obtain ⟨ps, rfl, hgathers, hskip⟩ := exists_of_ofMembers rest hrest
        have hr : f.read i n s = .ok s₁ := mapError_eq_ok.1 hr
        refine ⟨(k, n) :: ps, rfl, .take hk (by simpa using hseen) hr hgathers, ?_⟩
        rintro p hp hnone
        rcases List.mem_cons.1 hp with rfl | hp
        · rw [hk] at hnone
          cases hnone
        · exact hskip p hp hnone

theorem Gathers.append_pass {k : String} (h : f.Gathers s ps s') (hk : f.number? k = none)
    (n : Node) : f.Gathers s (ps ++ [(k, n)]) s' := by
  induction h with
  | nil => exact .pass hk .nil
  | pass hk' _ ih => exact .pass hk' ih
  | take hk' hs hr _ ih => exact .take hk' hs hr ih

section Single

variable {needed : Bool} {absent : Except Fault α} {a : α} {x x' : Option α}

theorem number?_single (k : String) :
    (single name needed d absent).number? k = if k = name then some 0 else none := by
  by_cases hk : k = name
  · simp [number?, single, hk, List.idxOf?_cons]
  · simp [number?, single, hk, List.idxOf?_cons, Ne.symm hk]

theorem gathers_of_ne (h : ∀ p ∈ ps, p.1 ≠ name) :
    (single name needed d absent).Gathers x ps x := by
  induction ps with
  | nil => exact .nil
  | cons p ps ih =>
    have hk : (single name needed d absent).number? p.1 = none := by
      rw [number?_single, if_neg (h p List.mem_cons_self)]
    exact .pass hk (ih fun q hq ↦ h q (List.mem_cons_of_mem _ hq))

theorem gathers_of_once (h : Once (fun p ↦ p.1 = name) (fun p ↦ d p.2 = .ok a) ps) :
    (single name needed d absent).Gathers none ps (some a) := by
  induction h with
  | here hp hq h =>
    exact .take (by rw [number?_single, if_pos hp]) rfl (map_eq_ok.2 ⟨a, hq, rfl⟩) (gathers_of_ne h)
  | later hp _ ih => exact .pass (by rw [number?_single, if_neg hp]) ih

theorem Gathers.of_single (h : (single name needed d absent).Gathers x ps x') :
    (∀ p ∈ ps, p.1 ≠ name) ∧ x' = x ∨
      x = none ∧ ∃ a, x' = some a ∧ Once (fun p ↦ p.1 = name) (fun p ↦ d p.2 = .ok a) ps := by
  induction h with
  | nil => exact .inl ⟨by simp, rfl⟩
  | @pass x x' k n ps hk _ ih =>
    have hne : k ≠ name := by
      rintro rfl
      rw [number?_single, if_pos rfl] at hk
      cases hk
    rcases ih with ⟨hps, rfl⟩ | ⟨rfl, a, rfl, honce⟩
    · exact .inl ⟨List.forall_mem_cons.2 ⟨hne, hps⟩, rfl⟩
    · exact .inr ⟨rfl, a, rfl, .later hne honce⟩
  | @take x x₁ x' k n ps i hk hs hr _ ih =>
    have hname : k = name := by
      by_contra hne
      rw [number?_single, if_neg hne] at hk
      cases hk
    obtain rfl : x = none := by
      cases x with
      | none => rfl
      | some a => cases hs
    obtain ⟨a, hn, rfl⟩ := map_eq_ok.1 hr
    rcases ih with ⟨hps, rfl⟩ | ⟨hx, -⟩
    · exact .inr ⟨rfl, a, rfl, .here hname hn hps⟩
    · cases hx

end Single

theorem Gathers.of_and {x x' : σ × τ} (hd : ∀ k, f.number? k = none ∨ g.number? k = none)
    (h : (f.and g).Gathers x ps x') : f.Gathers x.1 ps x'.1 ∧ g.Gathers x.2 ps x'.2 := by
  induction h with
  | nil => exact ⟨.nil, .nil⟩
  | pass hk _ ih =>
    rw [number?_and, Option.or_eq_none_iff, Option.map_eq_none_iff] at hk
    exact ⟨.pass hk.1 ih.1, .pass hk.2 ih.2⟩
  | @take x x₁ x' k n ps i hk hs hr _ ih =>
    rw [number?_and] at hk
    cases hf : f.number? k with
    | some j =>
      rw [hf, Option.some_or, Option.some.injEq] at hk
      subst hk
      have hj := lt_of_number? hf
      simp only [and, if_pos hj] at hs hr
      obtain ⟨s₁, hread, hx⟩ := exists_of_bind hr
      cases hx
      have hg : g.number? k = none := (hd k).resolve_left (by simp [hf])
      exact ⟨.take hf hs hread ih.1, .pass hg ih.2⟩
    | none =>
      rw [hf, Option.none_or, Option.map_eq_some_iff] at hk
      obtain ⟨j, hg, rfl⟩ := hk
      have hj : ¬j + f.names.length < f.names.length := by omega
      simp only [and, if_neg hj, Nat.add_sub_cancel] at hs hr
      obtain ⟨t₁, hread, hx⟩ := exists_of_bind hr
      cases hx
      exact ⟨.pass hf ih.1, .take hg hs hread ih.2⟩

theorem Gathers.and (hd : ∀ k, f.number? k = none ∨ g.number? k = none)
    (hf : f.Gathers s ps s') (hg : g.Gathers t ps t') :
    (f.and g).Gathers (s, t) ps (s', t') := by
  induction ps generalizing s t with
  | nil =>
    cases hf
    cases hg
    exact .nil
  | cons p ps ih =>
    obtain ⟨k, n⟩ := p
    cases hf with
    | pass hf hfs =>
      cases hg with
      | pass hg hgs =>
        have hk : (f.and g).number? k = none := by
          rw [number?_and, hf, hg]
          rfl
        exact .pass hk (ih hfs hgs)
      | @take _ t₁ _ _ _ _ j hg ht hr hgs =>
        have hj : ¬j + f.names.length < f.names.length := by omega
        have hk : (f.and g).number? k = some (j + f.names.length) := by
          rw [number?_and, hf, hg]
          rfl
        have hseen : (f.and g).seen (j + f.names.length) (s, t) = false := by
          simp only [Fields.and, if_neg hj, Nat.add_sub_cancel, ht]
        have hread : (f.and g).read (j + f.names.length) n (s, t) = .ok (s, t₁) := by
          simp only [Fields.and, if_neg hj, Nat.add_sub_cancel, hr, bind, Except.bind, pure,
            Except.pure]
        exact .take hk hseen hread (ih hfs hgs)
    | @take _ s₁ _ _ _ _ j hf hs hr hfs =>
      cases hg with
      | pass hg hgs =>
        have hj := lt_of_number? hf
        have hk : (f.and g).number? k = some j := by rw [number?_and, hf, Option.some_or]
        have hseen : (f.and g).seen j (s, t) = false := by simp only [Fields.and, if_pos hj, hs]
        have hread : (f.and g).read j n (s, t) = .ok (s₁, t) := by
          simp only [Fields.and, if_pos hj, hr, bind, Except.bind, pure, Except.pure]
        exact .take hk hseen hread (ih hfs hgs)
      | take hg =>
        rcases hd k with h | h
        · simp [hf] at h
        · simp [hg] at h

/-- The members amount to this value of the record. -/
def Gives (f : Fields σ α) (ps : List (String × Node)) (a : α) : Prop :=
  ∃ s, f.Gathers f.start ps s ∧ f.finish s = .ok a

theorem Gives.append_pass {a : α} {k : String} (h : f.Gives ps a) (hk : f.number? k = none)
    (n : Node) : f.Gives (ps ++ [(k, n)]) a :=
  h.imp fun _ hs ↦ ⟨hs.1.append_pass hk n, hs.2⟩

theorem gives_single {needed : Bool} {absent : Except Fault α} {a : α} :
    (single name needed d absent).Gives ps a ↔
      Once (fun p ↦ p.1 = name) (fun p ↦ d p.2 = .ok a) ps ∨
        (∀ p ∈ ps, p.1 ≠ name) ∧ absent = .ok a := by
  constructor
  · rintro ⟨x, hgathers, hfinish⟩
    rcases hgathers.of_single with ⟨hps, rfl⟩ | ⟨-, b, rfl, honce⟩
    · exact .inr ⟨hps, hfinish⟩
    · cases hfinish
      exact .inl honce
  · rintro (honce | ⟨hps, rfl⟩)
    · exact ⟨some a, gathers_of_once honce, rfl⟩
    · exact ⟨none, gathers_of_ne hps, rfl⟩

theorem gives_and {a : α} {b : β} (hd : ∀ k, f.number? k = none ∨ g.number? k = none) :
    (f.and g).Gives ps (a, b) ↔ f.Gives ps a ∧ g.Gives ps b := by
  constructor
  · rintro ⟨⟨s, t⟩, hgathers, hfinish⟩
    obtain ⟨a', ha, hfinish⟩ := exists_of_bind hfinish
    obtain ⟨b', hb, hfinish⟩ := exists_of_bind hfinish
    cases hfinish
    obtain ⟨hf, hg⟩ := hgathers.of_and hd
    exact ⟨⟨s, hf, ha⟩, ⟨t, hg, hb⟩⟩
  · rintro ⟨⟨s, hf, ha⟩, ⟨t, hg, hb⟩⟩
    refine ⟨(s, t), hf.and hd hg, ?_⟩
    simp only [Fields.and, ha, hb, bind, Except.bind, pure, Except.pure]

theorem gives_field {needed : Bool} {d : Decoder β} {absent : Except Fault β} {a : α} {b : β}
    (hn : name ∉ f.names.map Prod.fst) :
    (f.and (single name needed d absent)).Gives ps (a, b) ↔ f.Gives ps a ∧
      (Once (fun p ↦ p.1 = name) (fun p ↦ d p.2 = .ok b) ps ∨
        (∀ p ∈ ps, p.1 ≠ name) ∧ absent = .ok b) := by
  rw [gives_and, gives_single]
  intro k
  by_cases hk : k = name
  · exact .inl (number?_eq_none_iff.2 (hk ▸ hn))
  · exact .inr (by rw [number?_single, if_neg hk])

theorem Gathers.of_map {w : α → β} (h : (f.map w).Gathers s ps s') : f.Gathers s ps s' := by
  induction h with
  | nil => exact .nil
  | pass hk _ ih => exact .pass hk ih
  | take hk hs hr _ ih => exact .take hk hs hr ih

theorem Gathers.map (h : f.Gathers s ps s') (w : α → β) : (f.map w).Gathers s ps s' := by
  induction h with
  | nil => exact .nil
  | pass hk _ ih => exact .pass hk ih
  | take hk hs hr _ ih => exact .take hk hs hr ih

theorem gives_map {w : α → β} {b : β} : (f.map w).Gives ps b ↔ ∃ a, f.Gives ps a ∧ w a = b := by
  constructor
  · rintro ⟨s, hgathers, hfinish⟩
    obtain ⟨a, ha, hw⟩ := map_eq_ok.1 hfinish
    exact ⟨a, ⟨s, hgathers.of_map, ha⟩, hw⟩
  · rintro ⟨a, ⟨s, hgathers, ha⟩, rfl⟩
    exact ⟨s, hgathers.map w, map_eq_ok.2 ⟨a, ha, rfl⟩⟩

theorem record_object {form : Form} {a : α} (label : String) :
    f.record label (.object form ms) = .ok a ↔ ∃ ps, ms = .named ps ∧ f.Gives ps a ∧
      ∀ p ∈ ps, f.number? p.1 = none → p.2.skip = .ok () := by
  rw [record]
  constructor
  · intro h
    obtain ⟨s, hs, hfinish⟩ := exists_of_bind h
    obtain ⟨ps, rfl, hgathers, hskip⟩ := exists_of_ofMembers ms hs
    exact ⟨ps, rfl, ⟨s, hgathers, mapError_eq_ok.1 hfinish⟩, hskip⟩
  · rintro ⟨ps, rfl, ⟨s, hgathers, ha⟩, hskip⟩
    rw [hgathers.ofMembers hskip]
    simp only [bind, Except.bind, ha, here, mapError_ok]

theorem exists_of_record {label : String} {a : α} (h : f.record label n = .ok a) :
    (∃ form members, n = .object form members) ∨ ∃ form items, n = .list form items := by
  cases n with
  | object form members => exact .inl ⟨form, members, rfl⟩
  | list form items => exact .inr ⟨form, items, rfl⟩
  | _ =>
    rw [record] at h
    · exact absurd h (Node.here_mismatch_ne_ok _)
    all_goals simp

section InOrder

variable {i left : Nat} {ns ns' : List Node} {items : Items} {form : Form} {a : α} {b : β}

/-- What is read of a record from elements, of which the first is for field number `i`. -/
inductive Reads (f : Fields σ α) : Nat → σ → List Node → σ → Prop
  | nil {i : Nat} {s : σ} : Reads f i s [] s
  | cons {i : Nat} {s s₁ s' : σ} {n : Node} {ns : List Node} (hr : f.read i n s = .ok s₁)
      (h : Reads f (i + 1) s₁ ns s') : Reads f i s (n :: ns) s'

theorem reads_append : f.Reads i s (ns ++ ns') s' ↔
    ∃ s₁, f.Reads i s ns s₁ ∧ f.Reads (i + ns.length) s₁ ns' s' := by
  induction ns generalizing i s with
  | nil =>
    constructor
    · exact fun h ↦ ⟨s, .nil, h⟩
    · rintro ⟨_, ⟨⟩, h⟩
      exact h
  | cons n ns ih =>
    rw [List.length_cons, Nat.add_comm ns.length, ← Nat.add_assoc]
    constructor
    · rintro (_ | ⟨hr, h⟩)
      obtain ⟨s₁, hfirst, hrest⟩ := ih.1 h
      exact ⟨s₁, .cons hr hfirst, hrest⟩
    · rintro ⟨s₁, _ | ⟨hr, hfirst⟩, hrest⟩
      exact .cons hr (ih.2 ⟨s₁, hfirst, hrest⟩)

theorem reads_and_left (hi : i + ns.length ≤ f.names.length) :
    (f.and g).Reads i (s, t) ns (s', t') ↔ f.Reads i s ns s' ∧ t = t' := by
  induction ns generalizing i s with
  | nil =>
    constructor
    · rintro ⟨⟩
      exact ⟨.nil, rfl⟩
    · rintro ⟨⟨⟩, rfl⟩
      exact .nil
  | cons n ns ih =>
    rw [List.length_cons] at hi
    have hlt : i < f.names.length := by omega
    have hrest : i + 1 + ns.length ≤ f.names.length := by omega
    constructor
    · rintro (_ | ⟨hr, h⟩)
      simp only [and, if_pos hlt] at hr
      obtain ⟨s₁, hread, hx⟩ := exists_of_bind hr
      cases hx
      obtain ⟨h, ht⟩ := (ih hrest).1 h
      exact ⟨.cons hread h, ht⟩
    · rintro ⟨_ | ⟨hr, h⟩, ht⟩
      refine .cons ?_ ((ih hrest).2 ⟨h, ht⟩)
      simp only [and, if_pos hlt, hr, bind, Except.bind, pure, Except.pure]

theorem reads_and_right :
    (f.and g).Reads (f.names.length + i) (s, t) ns (s', t') ↔ s = s' ∧ g.Reads i t ns t' := by
  induction ns generalizing i t with
  | nil =>
    constructor
    · rintro ⟨⟩
      exact ⟨rfl, .nil⟩
    · rintro ⟨rfl, ⟨⟩⟩
      exact .nil
  | cons n ns ih =>
    have hlt : ¬f.names.length + i < f.names.length := by omega
    constructor
    · rintro (_ | ⟨hr, h⟩)
      simp only [and, if_neg hlt, Nat.add_sub_cancel_left] at hr
      obtain ⟨t₁, hread, hx⟩ := exists_of_bind hr
      cases hx
      rw [Nat.add_assoc] at h
      obtain ⟨hs, h⟩ := ih.1 h
      exact ⟨hs, .cons hread h⟩
    · rintro ⟨hs, _ | ⟨hr, h⟩⟩
      refine .cons ?_ (ih.2 ⟨hs, h⟩)
      simp only [and, if_neg hlt, Nat.add_sub_cancel_left, hr, bind, Except.bind, pure,
        Except.pure]

def GivesInOrder (f : Fields σ α) (ns : List Node) (a : α) : Prop :=
  ns.length ≤ f.names.length ∧ ∃ s, f.Reads 0 f.start ns s ∧ f.finish s = .ok a

theorem givesInOrder_single {needed : Bool} {absent : Except Fault α} :
    (single name needed d absent).GivesInOrder ns a ↔
      (∃ n, ns = [n] ∧ d n = .ok a) ∨ ns = [] ∧ absent = .ok a := by
  constructor
  · rintro ⟨hlength, s, hreads, hfinish⟩
    rcases hreads with _ | ⟨hr, h⟩
    · exact .inr ⟨rfl, hfinish⟩
    · next s₁ n ns =>
      have hnone : ns.length ≤ 0 := Nat.le_of_succ_le_succ hlength
      obtain rfl := List.length_eq_zero_iff.1 (Nat.le_zero.1 hnone)
      cases h
      obtain ⟨b, hn, rfl⟩ := map_eq_ok.1 hr
      cases hfinish
      exact .inl ⟨n, rfl, hn⟩
  · rintro (⟨n, rfl, hn⟩ | ⟨rfl, ha⟩)
    · exact ⟨Nat.le_refl 1, some a, .cons (map_eq_ok.2 ⟨a, hn, rfl⟩) .nil, rfl⟩
    · exact ⟨Nat.zero_le 1, none, .nil, ha⟩

theorem givesInOrder_and : (f.and g).GivesInOrder ns (a, b) ↔
    f.GivesInOrder (ns.take f.names.length) a ∧ g.GivesInOrder (ns.drop f.names.length) b := by
  have hnames : (f.and g).names.length = f.names.length + g.names.length := List.length_append
  have htake : 0 + (ns.take f.names.length).length ≤ f.names.length := by
    rw [List.length_take]
    omega
  have hreads {s : σ} {t : τ} : (f.and g).Reads 0 (f.start, g.start) ns (s, t) ↔
      f.Reads 0 f.start (ns.take f.names.length) s ∧
        g.Reads 0 g.start (ns.drop f.names.length) t := by
    conv_lhs => rw [← List.take_append_drop f.names.length ns, reads_append]
    rcases Nat.lt_or_ge ns.length f.names.length with hlt | hge
    · -- the elements end within the first part
      rw [List.drop_eq_nil_of_le (Nat.le_of_lt hlt)]
      constructor
      · rintro ⟨⟨s₁, t₁⟩, hfirst, ⟨⟩⟩
        obtain ⟨hf, rfl⟩ := (reads_and_left htake).1 hfirst
        exact ⟨hf, .nil⟩
      · rintro ⟨hfirst, ⟨⟩⟩
        exact ⟨_, (reads_and_left htake).2 ⟨hfirst, rfl⟩, .nil⟩
    · have hindex : 0 + (ns.take f.names.length).length = f.names.length + 0 := by simp [hge]
      rw [hindex]
      constructor
      · rintro ⟨⟨s₁, t₁⟩, hfirst, hrest⟩
        obtain ⟨hf, rfl⟩ := (reads_and_left htake).1 hfirst
        obtain ⟨rfl, hg⟩ := reads_and_right.1 hrest
        exact ⟨hf, hg⟩
      · rintro ⟨hfirst, hrest⟩
        exact ⟨_, (reads_and_left htake).2 ⟨hfirst, rfl⟩, reads_and_right.2 ⟨rfl, hrest⟩⟩
  constructor
  · rintro ⟨hlength, ⟨s, t⟩, h, hfinish⟩
    obtain ⟨a', ha, hfinish⟩ := exists_of_bind hfinish
    obtain ⟨b', hb, hfinish⟩ := exists_of_bind hfinish
    cases hfinish
    obtain ⟨hf, hg⟩ := hreads.1 h
    have hf' : (ns.take f.names.length).length ≤ f.names.length := by rwa [Nat.zero_add] at htake
    have hg' : (ns.drop f.names.length).length ≤ g.names.length := by
      rw [List.length_drop]
      omega
    exact ⟨⟨hf', s, hf, ha⟩, ⟨hg', t, hg, hb⟩⟩
  · rintro ⟨⟨hlf, s, hf, ha⟩, ⟨hlg, t, hg, hb⟩⟩
    rw [List.length_drop] at hlg
    refine ⟨by omega, (s, t), hreads.2 ⟨hf, hg⟩, ?_⟩
    simp only [Fields.and, ha, hb, bind, Except.bind, pure, Except.pure]

theorem reads_map {w : α → β} : (f.map w).Reads i s ns s' ↔ f.Reads i s ns s' := by
  constructor
  · intro h
    induction h with
    | nil => exact .nil
    | cons hr _ ih => exact .cons hr ih
  · intro h
    induction h with
    | nil => exact .nil
    | cons hr _ ih => exact .cons hr ih

theorem givesInOrder_map {w : α → β} :
    (f.map w).GivesInOrder ns b ↔ ∃ a, f.GivesInOrder ns a ∧ w a = b := by
  constructor
  · rintro ⟨hlength, s, hreads, hfinish⟩
    obtain ⟨a, ha, hw⟩ := map_eq_ok.1 hfinish
    exact ⟨a, ⟨hlength, s, reads_map.1 hreads, ha⟩, hw⟩
  · rintro ⟨a, ⟨hlength, s, hreads, ha⟩, rfl⟩
    exact ⟨hlength, s, reads_map.2 hreads, map_eq_ok.2 ⟨a, ha, rfl⟩⟩

/-- The elements are those of the fields in their order. The last ones may be missing if they may
be missing from a list. -/
theorem ofItems_eq_ok {label : String} (hleft : i + left = f.names.length) :
    f.ofItems label form left i s items = .ok s' ↔ ∃ ns, items = .of ns ∧ ns.length ≤ left ∧
      f.Reads i s ns s' ∧ true ∉ (f.names.map Prod.snd).drop (i + ns.length) := by
  induction left generalizing i s items with
  | zero =>
    have hdrop : (f.names.map Prod.snd).drop i = [] :=
      List.drop_eq_nil_of_le (by rw [List.length_map]; omega)
    constructor
    · intro h
      unfold ofItems at h
      split at h
      · cases h
        exact ⟨[], rfl, Nat.le_refl 0, .nil, by simp [hdrop]⟩
      · cases h
      · cases h
    · rintro ⟨ns, rfl, hlength, hreads, -⟩
      obtain rfl := List.length_eq_zero_iff.1 (Nat.le_zero.1 hlength)
      cases hreads
      rfl
  | succ left ih =>
    have hnext : i + 1 + left = f.names.length := by omega
    constructor
    · intro h
      unfold ofItems at h
      split at h
      · split at h
        · cases h
        · next hnone =>
          cases h
          exact ⟨[], rfl, Nat.zero_le _, .nil, by simpa using List.idxOf?_eq_none_iff.1 hnone⟩
      · cases h
      · next n rest =>
        obtain ⟨s₁, hr, h⟩ := exists_of_bind h
        obtain ⟨ns, rfl, hlength, hreads, hlast⟩ := (ih hnext).1 h
        have hr : f.read i n s = .ok s₁ := mapError_eq_ok.1 hr
        refine ⟨n :: ns, rfl, Nat.succ_le_succ hlength, .cons hr hreads, ?_⟩
        rwa [List.length_cons, Nat.add_comm ns.length, ← Nat.add_assoc]
    · rintro ⟨ns, rfl, hlength, hreads, hlast⟩
      rcases hreads with _ | ⟨hr, hreads⟩
      · have hnone : ((f.names.map Prod.snd).drop i).idxOf? true = none :=
          List.idxOf?_eq_none_iff.2 hlast
        simp only [Items.of, ofItems, hnone]
      · next s₁ n ns =>
        rw [List.length_cons, Nat.add_comm ns.length, ← Nat.add_assoc] at hlast
        have hrest := (ih hnext).2 ⟨ns, rfl, Nat.le_of_succ_le_succ hlength, hreads, hlast⟩
        simp only [Items.of, ofItems, hr, under, mapError_ok, bind, Except.bind, hrest]

theorem record_list {label : String} :
    f.record label (.list form items) = .ok a ↔ ∃ ns, items = .of ns ∧ f.GivesInOrder ns a ∧
      true ∉ (f.names.map Prod.snd).drop ns.length := by
  rw [record]
  constructor
  · intro h
    obtain ⟨s, hs, hfinish⟩ := exists_of_bind h
    obtain ⟨ns, rfl, hlength, hreads, hlast⟩ := (ofItems_eq_ok (Nat.zero_add _)).1 hs
    rw [Nat.zero_add] at hlast
    exact ⟨ns, rfl, ⟨hlength, s, hreads, mapError_eq_ok.1 hfinish⟩, hlast⟩
  · rintro ⟨ns, rfl, ⟨hlength, s, hreads, ha⟩, hlast⟩
    have hs : f.ofItems label form f.names.length 0 f.start (.of ns) = .ok s :=
      (ofItems_eq_ok (Nat.zero_add _)).2 ⟨ns, rfl, hlength, hreads, by rwa [Nat.zero_add]⟩
    simp only [hs, bind, Except.bind, ha, here, mapError_ok]

end InOrder

end Fields

end Gatehouse.Json
