import Gatehouse.Presented
import Gatehouse.Proofs.Http.Folding

namespace Gatehouse

namespace Http

variable {s t v : String} {ss : List String}

/-- What stands between the commas of a value, without the blanks around it, where that is not
nothing. -/
def elements (value : String) : List String :=
  ((Text.pieces ',' value.toList).map fun v ↦ String.ofList (Text.trim v)).filter (· ≠ "")

theorem listing_elements : Listing "," elements where
  empty := by decide
  append s t := by
    have h : (s ++ "," ++ t).toList = s.toList ++ ',' :: t.toList := by simp
    rw [elements, h, Text.pieces_append_sep, List.map_append, List.filter_append]
    rfl

theorem exists_of_mem_elements (h : v ∈ elements s) :
    v ≠ "" ∧ ',' ∉ v.toList ∧ Text.trim v.toList = v.toList ∧ ∀ c ∈ v.toList, c ∈ s.toList := by
  simp only [elements, List.mem_filter, List.mem_map, decide_eq_true_eq] at h
  obtain ⟨⟨p, hp, rfl⟩, hne⟩ := h
  obtain ⟨hs, hsep⟩ := Text.mem_of_mem_pieces hp
  simp only [String.toList_ofList, Text.trim_trim, true_and]
  exact ⟨hne, fun h ↦ hsep (Text.mem_of_mem_trim h), fun c hc ↦ hs c (Text.mem_of_mem_trim hc)⟩

theorem elements_eq_self (hne : v ≠ "") (hcomma : ',' ∉ v.toList)
    (htrim : Text.trim v.toList = v.toList) : elements v = [v] := by
  simp [elements, Text.pieces_of_not_mem hcomma, htrim, hne]

theorem elements_of_mem (h : v ∈ elements s) : elements v = [v] := by
  obtain ⟨hne, hcomma, htrim, -⟩ := exists_of_mem_elements h
  exact elements_eq_self hne hcomma htrim

theorem isFieldText_iff :
    isFieldText s ↔ ∀ c ∈ s.toList, c = '\t' ∨ 32 ≤ c.toNat ∧ c.toNat ≠ 127 := by
  simp [isFieldText]

theorem isFieldText_of_isReadable (h : isReadable s) : isFieldText s := by
  simp only [isReadable, List.all_eq_true, Bool.or_eq_true, Bool.and_eq_true,
    decide_eq_true_eq] at h
  refine isFieldText_iff.2 fun c hc ↦ (h c hc).imp_right fun hb ↦ ⟨hb.1, by omega⟩

theorem isFieldText_of_subset (hs : isFieldText s) (h : ∀ c ∈ t.toList, c ∈ s.toList) :
    isFieldText t := isFieldText_iff.2 fun c hc ↦ isFieldText_iff.1 hs c (h c hc)

theorem isFieldText_append (hs : isFieldText s) (ht : isFieldText t) : isFieldText (s ++ t) := by
  rw [isFieldText_iff] at hs ht ⊢
  intro c hc
  rw [String.toList_append, List.mem_append] at hc
  exact hc.elim (hs c) (ht c)

theorem isFieldText_joined {sep : String} (hsep : isFieldText sep) (h : ∀ s ∈ ss, isFieldText s) :
    isFieldText (Text.joined sep ss) := by
  induction ss using Text.joined.induct with
  | case1 => rfl
  | case2 s => exact h s List.mem_cons_self
  | case3 s t rest ih =>
    rw [Text.joined]
    exact isFieldText_append (isFieldText_append (h s List.mem_cons_self) hsep)
      (ih fun u hu ↦ h u (List.mem_cons_of_mem s hu))

theorem isFieldText_folded? {name : String} {fs : Fields} (hs : isFieldText (separator name))
    (h : ∀ s ∈ valuesOf name fs, isFieldText s) (hv : folded? name fs = some v) :
    isFieldText v := by
  unfold folded? at hv
  split at hv
  · cases hv
  · rw [← Option.some.inj hv]
    exact isFieldText_joined hs h

theorem isFieldText_of_mem_readable {r : Request} {name : String}
    (h : s ∈ valuesOf name r.readable) : isFieldText s := by
  obtain ⟨f, hf, rfl⟩ := List.mem_map.1 h
  exact isFieldText_of_isReadable (List.mem_filter.1 (List.mem_filter.1 hf).1).2

end Http

namespace Cookie

open Http (Listing isFieldText)

variable {c : Cookie} {p : List Char} {s : String}

theorem ofPiece?_plain (h : '=' ∉ p) : ofPiece? p = none := by
  rw [ofPiece?, Text.cut_eq_none.2 h]

theorem ofPiece?_pair {name : String} (h : '=' ∉ name.toList) (value : String) :
    ofPiece? (name ++ "=" ++ value).toList =
      if Text.trimmed name = "" then none else some ⟨Text.trimmed name, Text.trimmed value⟩ := by
  have hshape : (name ++ "=" ++ value).toList = name.toList ++ '=' :: value.toList := by simp
  rw [ofPiece?, hshape, Text.cut_append h]
  rcases ht : Text.trim name.toList with _ | ⟨c, cs⟩ <;> simp [Text.trimmed, ht]

theorem ofPiece?_cons_of_isBlank {b : Char} (hb : Text.isBlank b) (hne : b ≠ '=') :
    ofPiece? (b :: p) = ofPiece? p := by
  unfold ofPiece?
  rw [Text.cut, if_neg hne]
  cases Text.cut '=' p with
  | none => rfl
  | some ab => simp only [Option.map_some, Text.trim_cons_of_isBlank hb]

theorem parse_append (s t : String) : parse (s ++ ";" ++ t) = parse s ++ parse t := by
  have h : (s ++ ";" ++ t).toList = s.toList ++ ';' :: t.toList := by simp
  rw [parse, h, Text.pieces_append_sep, List.filterMap_append]
  rfl

theorem parse_blank_append (s : String) : parse (" " ++ s) = parse s := by
  have h : (" " ++ s).toList = ' ' :: s.toList := by simp
  rw [parse, h, parse]
  rcases hp : Text.pieces ';' s.toList with _ | ⟨p, ps⟩
  · exact absurd hp (Text.pieces_ne_nil ';' s.toList)
  · have hblank : ofPiece? (' ' :: p) = ofPiece? p :=
      ofPiece?_cons_of_isBlank (by decide) (by decide)
    simp [Text.pieces, hp, List.filterMap_cons, hblank]

theorem listing_parse_bare : Listing ";" parse := ⟨by decide, parse_append⟩

theorem listing_parse : Listing "; " parse where
  empty := by decide
  append s t := by
    have h : s ++ "; " ++ t = s ++ ";" ++ (" " ++ t) := by
      simp only [String.append_assoc]
      rfl
    rw [h, parse_append, parse_blank_append]

theorem parse_of_not_mem (h : ';' ∉ s.toList) : parse s = (ofPiece? s.toList).toList := by
  rw [parse, Text.pieces_of_not_mem h, List.filterMap_cons]
  cases ofPiece? s.toList <;> rfl

/-- The cookies that texts write, each at most one: a text without an equality sign writes none, nor
does one with nothing but blanks in front of its first equality sign. -/
inductive Reads : List String → List Cookie → Prop
  | nil : Reads [] []
  | cookie {name value : String} {ss : List String} {cs : List Cookie}
      (hn : '=' ∉ name.toList) (hne : Text.trimmed name ≠ "") :
      Reads ss cs → Reads ((name ++ "=" ++ value) :: ss)
        (⟨Text.trimmed name, Text.trimmed value⟩ :: cs)
  | nameless {name value : String} {ss : List String} {cs : List Cookie}
      (hn : '=' ∉ name.toList) (hne : Text.trimmed name = "") :
      Reads ss cs → Reads ((name ++ "=" ++ value) :: ss) cs
  | plain {s : String} {ss : List String} {cs : List Cookie}
      (hs : '=' ∉ s.toList) : Reads ss cs → Reads (s :: ss) cs

theorem reads_iff {ss : List String} {cs : List Cookie} :
    Reads ss cs ↔ ss.filterMap (fun s ↦ ofPiece? s.toList) = cs := by
  constructor
  · intro h
    induction h with
    | nil => rfl
    | @cookie name value _ _ hn hne _ ih =>
      rw [List.filterMap_cons, ofPiece?_pair hn value, if_neg hne, ih]
    | @nameless name value _ _ hn hne _ ih =>
      rw [List.filterMap_cons, ofPiece?_pair hn value, if_pos hne, ih]
    | plain hs _ ih => rw [List.filterMap_cons, ofPiece?_plain hs, ih]
  · intro h
    induction ss generalizing cs with
    | nil =>
      obtain rfl : cs = [] := h.symm
      exact .nil
    | cons s ss ih =>
      cases hcut : Text.cut '=' s.toList with
      | none =>
        have hs := Text.cut_eq_none.1 hcut
        rw [List.filterMap_cons, ofPiece?_plain hs] at h
        exact .plain hs (ih h)
      | some ab =>
        obtain ⟨a, b⟩ := ab
        obtain ⟨hs, ha⟩ := Text.cut_eq_some.1 hcut
        have hn : '=' ∉ (String.ofList a).toList := by rwa [String.toList_ofList]
        obtain rfl : s = String.ofList a ++ "=" ++ String.ofList b := by
          simp [← String.toList_inj, hs]
        rw [List.filterMap_cons, ofPiece?_pair hn] at h
        by_cases hne : Text.trimmed (String.ofList a) = ""
        · rw [if_pos hne] at h
          exact .nameless hn hne (ih h)
        · rw [if_neg hne] at h
          obtain rfl := h.symm
          exact .cookie hn hne (ih rfl)

/-- The cookies of a value are those that are written between its semicolons. -/
theorem parse_eq_iff {value : String} {cs : List Cookie} :
    parse value = cs ↔ ∃ fragments, value = Text.joined ";" fragments ∧
      (∀ s ∈ fragments, ';' ∉ s.toList) ∧ Reads fragments cs := by
  constructor
  · intro h
    refine ⟨(Text.pieces ';' value.toList).map String.ofList, ?_, ?_, ?_⟩
    · have hvalue := Text.joined_pieces ';' value.toList
      rw [String.ofList_toList] at hvalue
      exact hvalue.symm
    · intro s hs
      obtain ⟨p, hp, rfl⟩ := List.mem_map.1 hs
      rw [String.toList_ofList]
      exact (Text.mem_of_mem_pieces hp).2
    · rw [reads_iff, List.filterMap_map, ← h, parse]
      simp
  · intro h
    obtain ⟨fragments, rfl, hs, hr⟩ := h
    rw [listing_parse_bare.joined, ← reads_iff.1 hr, List.filterMap_eq_flatMap_toList]
    exact List.flatMap_congr fun s h ↦ parse_of_not_mem (hs s h)

theorem exists_of_ofPiece? (h : ofPiece? p = some c) :
    c.name ≠ "" ∧ '=' ∉ c.name.toList ∧ Text.trim c.name.toList = c.name.toList ∧
      Text.trim c.value.toList = c.value.toList ∧ ∀ d ∈ c.text.toList, d ∈ p := by
  unfold ofPiece? at h
  split at h
  · next name value hcut =>
    obtain ⟨rfl, hsep⟩ := Text.cut_eq_some.1 hcut
    split at h
    · cases h
    · next d ds htrim =>
      obtain rfl := (Option.some.inj h).symm
      rw [← htrim]
      have hname : Text.trim name ≠ [] := by simp [htrim]
      refine ⟨by simpa [← String.toList_inj] using hname, ?_, ?_, ?_, ?_⟩
      · rw [String.toList_ofList]
        exact fun hmem ↦ hsep (Text.mem_of_mem_trim hmem)
      · simp
      · simp
      · intro d hd
        simp only [text, String.toList_append, String.toList_ofList, List.mem_append] at hd ⊢
        rcases hd with (hd | hd) | hd
        · exact .inl (Text.mem_of_mem_trim hd)
        · obtain rfl : d = '=' := by simpa using hd
          exact .inr List.mem_cons_self
        · exact .inr (List.mem_cons_of_mem _ (Text.mem_of_mem_trim hd))
  · cases h

theorem ofPiece?_text (h : ofPiece? p = some c) : ofPiece? c.text.toList = some c := by
  obtain ⟨hne, hsep, hname, hvalue, -⟩ := exists_of_ofPiece? h
  rw [text, ofPiece?_pair hsep]
  simp [Text.trimmed, hname, hvalue, hne]

theorem parse_text (h : c ∈ parse s) : parse c.text = [c] := by
  obtain ⟨p, hp, hc⟩ := List.mem_filterMap.1 h
  obtain ⟨-, hsep⟩ := Text.mem_of_mem_pieces hp
  obtain ⟨-, -, -, -, hchars⟩ := exists_of_ofPiece? hc
  rw [parse, Text.pieces_of_not_mem fun hd ↦ hsep (hchars _ hd), List.filterMap_cons,
    ofPiece?_text hc]
  rfl

theorem flatMap_parse_text {cs : List Cookie} (h : ∀ c ∈ cs, ∃ s, c ∈ parse s) :
    (cs.map text).flatMap parse = cs := by
  rw [List.flatMap_map]
  apply Http.flatMap_eq_self
  intro c hc
  obtain ⟨s, hs⟩ := h c hc
  exact parse_text hs

/-- What may stand in a name or a value without being cut or trimmed. -/
def IsCompact (s : String) : Prop :=
  ∀ c ∈ s.toList, c ≠ ';' ∧ c ≠ '=' ∧ Text.isBlank c = false

theorem parse_pair {name value : String} (hne : name ≠ "") (hn : IsCompact name)
    (hv : IsCompact value) : parse (name ++ "=" ++ value) = [⟨name, value⟩] := by
  have hshape : (name ++ "=" ++ value).toList = name.toList ++ '=' :: value.toList := by simp
  have hsemicolon : ';' ∉ name.toList ++ '=' :: value.toList := by
    simp only [List.mem_append, List.mem_cons, not_or]
    exact ⟨fun h ↦ (hn _ h).1 rfl, by decide, fun h ↦ (hv _ h).1 rfl⟩
  have hequals : '=' ∉ name.toList := fun h ↦ (hn _ h).2.1 rfl
  rw [parse_of_not_mem (hshape ▸ hsemicolon), ofPiece?_pair hequals]
  simp [Text.trimmed, hne, Text.trim_of_not_isBlank fun c hc ↦ (hn c hc).2.2,
    Text.trim_of_not_isBlank fun c hc ↦ (hv c hc).2.2]

/-- The name of a cookie that has been read ends where its text has the first equality sign. -/
theorem name_eq_of_text_eq {c' : Cookie} (h : '=' ∉ c.name.toList) (h' : '=' ∉ c'.name.toList)
    (ht : c.text = c'.text) : c.name = c'.name := by
  have hcut (c : Cookie) (h : '=' ∉ c.name.toList) :
      Text.cut '=' c.text.toList = some (c.name.toList, c.value.toList) := by
    rw [← Text.cut_append h]
    simp [text]
  have hsame := hcut c h
  rw [ht, hcut c' h', Option.some.injEq, Prod.mk.injEq] at hsame
  exact (String.toList_inj.1 hsame.1).symm

theorem isFieldText_text (hs : isFieldText s) (h : c ∈ parse s) : isFieldText c.text := by
  obtain ⟨p, hp, hc⟩ := List.mem_filterMap.1 h
  obtain ⟨hchars, -⟩ := Text.mem_of_mem_pieces hp
  obtain ⟨-, -, -, -, hd⟩ := exists_of_ofPiece? hc
  exact Http.isFieldText_of_subset hs fun d hmem ↦ hchars d (hd d hmem)

end Cookie

end Gatehouse
