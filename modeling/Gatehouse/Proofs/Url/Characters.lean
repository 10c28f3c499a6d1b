import Gatehouse.Links
import Gatehouse.Proofs.Except
import Gatehouse.Proofs.Http.Listings
import Gatehouse.Proofs.Text.Utf8
import Mathlib.Data.List.TakeDrop
import Mathlib.Data.List.TakeWhile

namespace Gatehouse

namespace Url

variable {c : Char} {s t : List Char} {encoded : Char → Bool} {scheme source : String} {n : Nat}

def inText (c : Char) : Bool := 32 ≤ c.toNat && c.toNat ≠ 127

/-- What may stand before the query. -/
def inFront (c : Char) : Bool := inText c && c ≠ '?' && c ≠ '#'

def IsText (s : String) : Prop := ∀ c ∈ s.toList, inText c

def IsFront (s : String) : Prop := ∀ c ∈ s.toList, inFront c

instance (s : String) : Decidable (IsFront s) :=
  decidable_of_iff (s.toList.all inFront) List.all_eq_true

theorem IsFront.isText {s : String} (h : IsFront s) : IsText s := by
  intro c hc
  have := h c hc
  simp only [inFront, Bool.and_eq_true] at this
  exact this.1.1

theorem IsFront.append {s t : String} (hs : IsFront s) (ht : IsFront t) : IsFront (s ++ t) := by
  intro c hc
  rw [String.toList_append, List.mem_append] at hc
  exact hc.elim (hs c) (ht c)

theorem IsText.append {s t : String} (hs : IsText s) (ht : IsText t) : IsText (s ++ t) := by
  intro c hc
  rw [String.toList_append, List.mem_append] at hc
  exact hc.elim (hs c) (ht c)

theorem IsText.isFieldText {s : String} (h : IsText s) : Http.isFieldText s := by
  refine Http.isFieldText_iff.2 fun c hc ↦ .inr ?_
  have := h c hc
  simpa [inText] using this

theorem isFront_empty : IsFront "" := by
  intro c hc
  cases hc

theorem isAlphanum_of_mem_percent {b : UInt8} (h : c ∈ percent b) : c = '%' ∨ c.isAlphanum := by
  have digit : ∀ n : Fin 16, (Octets.hexDigitUpper n).isAlphanum := by decide
  have hb := b.toNat_lt
  simp only [percent, List.mem_cons, List.not_mem_nil, or_false] at h
  rcases h with rfl | rfl | rfl
  · exact .inl rfl
  · exact .inr (digit ⟨b.toNat / 16, by omega⟩)
  · exact .inr (digit ⟨b.toNat % 16, by omega⟩)

theorem inFront_of_isAlphanum (h : c.isAlphanum) : inFront c := by
  have all : ∀ n : Fin 128, (Char.ofNat n).isAlphanum → inFront (Char.ofNat n) := by decide
  have hc := all ⟨c.toNat, Text.lt_of_isAlphanum h⟩
  rw [Char.ofNat_toNat] at hc
  exact hc h

theorem mem_percentEncode_cases (h : c ∈ percentEncode encoded s) :
    c ∈ s ∧ encoded c = false ∨ c = '%' ∨ c.isAlphanum := by
  simp only [percentEncode, List.mem_flatMap] at h
  obtain ⟨d, hd, hc⟩ := h
  split at hc
  · obtain ⟨b, -, hb⟩ := List.mem_flatMap.1 hc
    exact .inr (isAlphanum_of_mem_percent hb)
  · rw [List.mem_singleton] at hc
    subst hc
    exact .inl ⟨hd, Bool.eq_false_iff.2 ‹_›⟩

theorem mem_percentEncode (h : c ∈ percentEncode encoded s) :
    c ∈ s ∧ encoded c = false ∨ inFront c := by
  rcases mem_percentEncode_cases h with h | rfl | h
  · exact .inl h
  · exact .inr (by decide)
  · exact .inr (inFront_of_isAlphanum h)

theorem percentEncode_cons (encoded : Char → Bool) (c : Char) (s : List Char) :
    percentEncode encoded (c :: s) =
      (if encoded c then (Octets.ofText (String.singleton c)).flatMap percent else [c]) ++
        percentEncode encoded s := List.flatMap_cons

theorem length_percent_char (c : Char) :
    2 ≤ ((Octets.ofText (String.singleton c)).flatMap percent).length := by
  have hpos : 0 < (Octets.ofText (String.singleton c)).length := by
    rw [Octets.ofText_eq, String.toList_singleton, Octets.ofChars_cons, List.length_append,
      String.length_utf8EncodeChar]
    exact Nat.lt_of_lt_of_le c.utf8Size_pos (Nat.le_add_right _ _)
  obtain ⟨b, o, hb⟩ := List.exists_cons_of_length_pos hpos
  rw [hb, List.flatMap_cons, List.length_append]
  exact Nat.le_trans (Nat.le_succ 2) (Nat.le_add_right _ _)

theorem length_le_percentEncode (encoded : Char → Bool) (s : List Char) :
    s.length ≤ (percentEncode encoded s).length := by
  induction s with
  | nil => exact Nat.zero_le _
  | cons c s ih =>
    have hc := length_percent_char c
    rw [percentEncode_cons, List.length_append, List.length_cons]
    split
    · omega
    · rw [List.length_singleton]
      omega

/-- Encoding makes a text longer, unless there is nothing to encode. -/
theorem percentEncode_eq_self : percentEncode encoded s = s ↔ ∀ c ∈ s, encoded c = false := by
  induction s with
  | nil => simp [percentEncode]
  | cons c s ih =>
    rw [percentEncode_cons, List.forall_mem_cons]
    cases hc : encoded c with
    | false =>
      simp only [Bool.false_eq_true, if_false, List.singleton_append, List.cons.injEq, true_and]
      exact ih
    | true =>
      simp only [if_true, Bool.true_eq_false, false_and, iff_false]
      intro h
      have hl := congrArg List.length h
      rw [List.length_append, List.length_cons] at hl
      have hchar := length_percent_char c
      have hrest := length_le_percentEncode encoded s
      omega

theorem isFront_encodeText (h : ∀ c ∈ s, encoded c = false → inFront c) :
    IsFront (encodeText encoded s) := by
  intro c hc
  rw [encodeText, String.toList_ofList] at hc
  rcases mem_percentEncode hc with ⟨hs, he⟩ | hf
  · exact h c hs he
  · exact hf

theorem isText_encodeText (h : ∀ c, encoded c = false → inText c) (s : List Char) :
    IsText (encodeText encoded s) := by
  intro c hc
  rw [encodeText, String.toList_ofList] at hc
  rcases mem_percentEncode hc with ⟨-, he⟩ | hf
  · exact h c he
  · simp only [inFront, Bool.and_eq_true] at hf
    exact hf.1.1

theorem inText_of_not_isControl (h : isControl c = false) : inText c := by
  simp only [isControl, Bool.or_eq_false_iff, decide_eq_false_iff_not] at h
  simp only [inText, Bool.and_eq_true, decide_eq_true_eq]
  omega

theorem inText_of_not_inFragment (h : inFragment c = false) : inText c := by
  simp only [inFragment, Bool.or_eq_false_iff] at h
  exact inText_of_not_isControl h.1

theorem inText_of_not_inQuery (h : inQuery c = false) : inText c := by
  simp only [inQuery, Bool.or_eq_false_iff] at h
  exact inText_of_not_isControl h.1

theorem inFront_of_not_inPath (h : inPath c = false) : inFront c := by
  simp only [inPath, Bool.or_eq_false_iff] at h
  have ht := inText_of_not_inFragment h.1
  have hc := h.2
  simp only [List.contains_eq_mem, List.mem_cons, List.not_mem_nil, or_false,
    decide_eq_false_iff_not, not_or] at hc
  simp [inFront, ht, hc.1, hc.2.1]

theorem inFront_of_not_inUserinfo (h : inUserinfo c = false) : inFront c := by
  simp only [inUserinfo, Bool.or_eq_false_iff] at h
  exact inFront_of_not_inPath h.1

theorem exists_of_mem_toDigits {b : Nat} (hb : 1 < b) (h : c ∈ Nat.toDigits b n) :
    ∃ d < b, c = Nat.digitChar d := by
  induction n using Nat.strongRecOn with
  | ind n ih =>
    rw [Nat.toDigits_eq_if hb] at h
    split at h
    · exact ⟨n, by assumption, List.mem_singleton.1 h⟩
    · rw [List.mem_append, List.mem_singleton] at h
      rcases h with h | rfl
      · exact ih (n / b) (Nat.div_lt_self (by omega) hb) h
      · exact ⟨n % b, Nat.mod_lt _ (by omega), rfl⟩

theorem inFront_of_mem_toDigits {b : Nat} (hb : 1 < b) (hb' : b ≤ 16) (h : c ∈ Nat.toDigits b n) :
    inFront c := by
  obtain ⟨d, hd, rfl⟩ := exists_of_mem_toDigits hb h
  have all : ∀ d : Fin 16, inFront (Nat.digitChar d) := by decide
  exact all ⟨d, by omega⟩

theorem isFront_toString (n : Nat) : IsFront (toString n) := by
  intro c hc
  rw [Nat.toString_eq_repr, Nat.toList_repr] at hc
  exact inFront_of_mem_toDigits (by decide) (by decide) hc

theorem isFront_singleton (h : inFront c) : IsFront (String.singleton c) := by
  intro d hd
  rw [String.toList_singleton, List.mem_singleton] at hd
  exact hd ▸ h

theorem isFront_ipv4Text (n : Nat) : IsFront (ipv4Text n) := by
  have hpoint : IsFront "." := isFront_singleton (c := '.') rfl
  exact ((((((isFront_toString _).append hpoint).append (isFront_toString _)).append
    hpoint).append (isFront_toString _)).append hpoint).append (isFront_toString _)

theorem isFront_joined {sep : String} {ss : List String} (hsep : IsFront sep)
    (h : ∀ s ∈ ss, IsFront s) : IsFront (Text.joined sep ss) := by
  induction ss using Text.joined.induct with
  | case1 => exact isFront_empty
  | case2 s => exact h s List.mem_cons_self
  | case3 s t rest ih =>
    rw [Text.joined]
    exact ((h s List.mem_cons_self).append hsep).append
      (ih fun u hu ↦ h u (List.mem_cons_of_mem s hu))

theorem isFront_groupsText (gs : List Nat) : IsFront (groupsText gs) := by
  apply isFront_joined (isFront_singleton (c := ':') rfl)
  intro s hs
  obtain ⟨g, -, rfl⟩ := List.mem_map.1 hs
  intro c hc
  rw [String.toList_ofList] at hc
  exact inFront_of_mem_toDigits (by decide) (by decide) hc

theorem isFront_bracketed (gs : List Nat) : IsFront (bracketed (ipv6Text gs)) := by
  have hinner : IsFront (ipv6Text gs) := by
    unfold ipv6Text
    split
    split
    · exact isFront_groupsText gs
    · refine ((isFront_groupsText _).append ?_).append (isFront_groupsText _)
      intro c hc
      have : c = ':' := by simpa using hc
      exact this ▸ rfl
  exact ((isFront_singleton (c := '[') rfl).append hinner).append (isFront_singleton (c := ']') rfl)

theorem isFront_bracketedHost {host : String} (h : bracketedHost s = .ok host) :
    IsFront host := by
  unfold bracketedHost at h
  split at h
  · split at h
    · exact Except.ok.inj h ▸ isFront_bracketed _
    · cases h
  · cases h

theorem inFront_of_not_isForbidden (h : isForbidden c = false) : inFront c := by
  simp only [isForbidden, Bool.or_eq_false_iff, decide_eq_false_iff_not, List.contains_eq_mem,
    List.mem_cons, List.not_mem_nil, or_false, not_or] at h
  simp only [inFront, inText, Bool.and_eq_true, decide_eq_true_eq]
  exact ⟨⟨⟨by omega, h.1.2⟩, by simpa using h.2.2.2.2.2.2.2.1⟩, by simpa using h.2.1⟩

theorem isFront_asciiDomain {domain : String} (h : asciiDomain s = some domain) :
    IsFront domain := by
  have checked : ∀ result : List Char,
      (if result.any isForbidden then none else some (String.ofList result)) = some domain →
        IsFront domain := by
    intro result hr
    split at hr
    · cases hr
    · rename_i hforbidden
      obtain rfl := Option.some.inj hr
      intro c hc
      rw [String.toList_ofList] at hc
      rw [Bool.not_eq_true, List.any_eq_false] at hforbidden
      exact inFront_of_not_isForbidden (Bool.eq_false_iff.2 (hforbidden c hc))
  simp only [asciiDomain] at h
  split at h
  · exact checked _ h
  · obtain ⟨normal, -, h⟩ := Option.bind_eq_some_iff.1 h
    obtain ⟨ls, -, h⟩ := Option.bind_eq_some_iff.1 h
    split at h
    · exact checked _ h
    · cases h

theorem isFront_specialHost {host : String} (h : specialHost s = .ok host) : IsFront host := by
  unfold specialHost at h
  split at h
  · exact isFront_bracketedHost h
  · split at h
    · split at h
      · rename_i domain hdomain
        by_cases hempty : domain = ""
        · rw [if_pos hempty] at h
          cases h
        · rw [if_neg hempty] at h
          split at h
          · split at h
            · exact Except.ok.inj h ▸ isFront_ipv4Text _
            · cases h
          · exact Except.ok.inj h ▸ isFront_asciiDomain hdomain
      · cases h
    · cases h

theorem isFront_opaqueHost {host : String} (h : opaqueHost s = .ok host) : IsFront host := by
  unfold opaqueHost at h
  split at h
  · exact isFront_bracketedHost h
  · split at h
    · cases h
    · rename_i hany
      obtain rfl := Except.ok.inj h
      apply isFront_encodeText
      intro c hc he
      rw [Bool.not_eq_true, List.any_eq_false] at hany
      have hc' := hany c hc
      simp only [List.contains_eq_mem, List.mem_cons, List.not_mem_nil, or_false,
        decide_eq_true_eq, not_or] at hc'
      simp [inFront, inText_of_not_isControl he, hc'.2.2.2.2.2.1, hc'.2.2.2.2.2.2.2.2.2.2.1]

structure Authority.IsFront (a : Authority) : Prop where
  username : Url.IsFront a.username
  password : Url.IsFront a.password
  host : Url.IsFront a.host

theorem isFront_readUserinfo (s : List Char) :
    IsFront (readUserinfo s).1 ∧ IsFront (readUserinfo s).2 := by
  unfold readUserinfo
  split
  · exact ⟨isFront_encodeText fun c _ ↦ inFront_of_not_inUserinfo,
      isFront_encodeText fun c _ ↦ inFront_of_not_inUserinfo⟩
  · exact ⟨isFront_encodeText fun c _ ↦ inFront_of_not_inUserinfo, isFront_empty⟩

theorem isFront_readAuthority {a : Authority} (h : readAuthority scheme s = .ok (a, t)) :
    a.IsFront := by
  -- the parts that are read before and behind the host
  have whole : ∀ host : String, IsFront host → ∀ (info after : List Char) (port : Option Nat),
      (.ok ((⟨(readUserinfo info).1, (readUserinfo info).2, host, port⟩ : Authority), after) :
        Except Error (Authority × List Char)) = .ok (a, t) → a.IsFront := by
    intro host hhost info after port h
    obtain ⟨rfl, -⟩ := Prod.mk.inj (Except.ok.inj h)
    exact ⟨(isFront_readUserinfo _).1, (isFront_readUserinfo _).2, hhost⟩
  simp only [readAuthority] at h
  split at h
  · cases h
  · split at h
    · cases h
    · split at h
      · obtain ⟨host, hhost, h⟩ := exists_of_bind h
        split at h
        · obtain ⟨⟨port, left⟩, -, h⟩ := exists_of_bind h
          exact whole host (isFront_specialHost hhost) _ _ port h
        · exact whole host (isFront_specialHost hhost) _ _ none h
      · obtain ⟨host, hhost, h⟩ := exists_of_bind h
        split at h
        · obtain ⟨⟨port, left⟩, -, h⟩ := exists_of_bind h
          exact whole host (isFront_opaqueHost hhost) _ _ port h
        · exact whole host (isFront_opaqueHost hhost) _ _ none h

def Path.IsFront : Path → Prop
  | .rootless text => Url.IsFront text
  | .rooted ss => ∀ s ∈ ss, Url.IsFront s

theorem mem_leave {done : List String} {x : String} (h : x ∈ leave done) : x ∈ done := by
  cases done with
  | nil => exact h
  | cons y done =>
    rw [leave] at h
    split at h
    · exact h
    · exact List.mem_cons_of_mem y h

theorem inFront_of_isAlpha (h : c.isAlpha) : inFront c := by
  have hn := Text.toNat_of_isAlphanum (c := c) (by rw [Char.isAlphanum, h]; rfl)
  simp only [inFront, inText, Bool.and_eq_true, decide_eq_true_eq]
  refine ⟨⟨⟨by omega, by omega⟩, ?_⟩, ?_⟩
  · rintro rfl
    revert h
    decide
  · rintro rfl
    revert h
    decide

theorem isFront_drive (h : isDrive (c :: s)) : IsFront (String.ofList [c, ':']) := by
  have hc : c.isAlpha := by
    unfold isDrive at h
    split at h
    · rename_i heq
      obtain ⟨rfl, -⟩ := List.cons.inj heq
      exact (Bool.and_eq_true _ _ ▸ h).1
    · cases h
  intro d hd
  rw [String.toList_ofList] at hd
  simp only [List.mem_cons, List.not_mem_nil, or_false] at hd
  rcases hd with rfl | rfl
  · exact inFront_of_isAlpha hc
  · rfl

theorem isFront_resolve {isFile : Bool} {done : List String} {ss : List (List Char)}
    (hd : ∀ x ∈ done, IsFront x) : ∀ x ∈ resolve isFile done ss, IsFront x := by
  induction ss generalizing done with
  | nil =>
    intro x hx
    exact hd x (List.mem_reverse.1 hx)
  | cons s ss ih =>
    have hended : ∀ d : List String, (∀ x ∈ d, IsFront x) →
        ∀ x ∈ (if ss.isEmpty then [""] else []) ++ d, IsFront x := by
      intro d hd x hx
      rcases List.mem_append.1 hx with hx | hx
      · split at hx
        · exact List.mem_singleton.1 hx ▸ isFront_empty
        · cases hx
      · exact hd x hx
    rw [resolve.eq_def]
    dsimp only
    split
    · exact ih (hended _ hd)
    · exact ih (hended _ fun x hx ↦ hd x (mem_leave hx))
    · split
      · rename_i c tail hdrive
        simp only [Bool.and_eq_true] at hdrive
        apply ih
        intro x hx
        rw [List.mem_singleton] at hx
        exact hx ▸ isFront_drive hdrive.2
      · apply ih
        intro x hx
        rcases List.mem_cons.1 hx with rfl | hx
        · exact isFront_encodeText fun c _ ↦ inFront_of_not_inPath
        · exact hd x hx

theorem isFront_readSegments (scheme : String) (s : List Char) :
    (Path.rooted (readSegments scheme s)).IsFront := by
  have hresolve : ∀ x ∈ resolve (scheme = "file") [] (segments (isSpecial scheme) s), IsFront x :=
    isFront_resolve fun x hx ↦ nomatch hx
  unfold readSegments
  dsimp only
  split
  · split
    · intro x hx
      exact List.mem_singleton.1 hx ▸ isFront_empty
    · intro x hx
      exact hresolve x ((List.dropWhile_sublist _).subset hx)
  · exact hresolve

theorem isFront_readPath (scheme : String) (s : List Char) : (readPath scheme s).IsFront := by
  unfold readPath
  split
  · intro x hx
    split at hx
    · exact List.mem_singleton.1 hx ▸ isFront_empty
    · cases hx
  · exact isFront_readSegments scheme _

/-- A URL all of whose parts have been encoded. -/
structure IsEncoded (u : Url) : Prop where
  scheme : IsFront u.scheme
  authority : ∀ a ∈ u.authority, a.IsFront
  path : u.path.IsFront
  query : ∀ q ∈ u.query, IsText q
  fragment : ∀ f ∈ u.fragment, IsText f

theorem isEncoded_complete {authority : Option Authority} {path : List Char → Path}
    (hs : IsFront scheme) (ha : ∀ a ∈ authority, a.IsFront)
    (hp : ∀ s, (∀ c ∈ s, endsPath c = false) → (path s).IsFront) :
    (complete scheme authority path s).IsEncoded := by
  have hfront : ∀ c ∈ (s.span (!endsPath ·)).1, endsPath c = false := by
    intro c hc
    rw [List.span_eq_takeWhile_dropWhile] at hc
    simpa using List.mem_takeWhile_imp hc
  have hquery : ∀ q, IsText (encodeText (if isSpecial scheme then inSpecialQuery else inQuery) q) :=
    isText_encodeText fun c hc ↦ by
      split at hc
      · simp only [inSpecialQuery, Bool.or_eq_false_iff] at hc
        exact inText_of_not_inQuery hc.1
      · exact inText_of_not_inQuery hc
  have hfragment : ∀ f, IsText (encodeText inFragment f) :=
    isText_encodeText fun c ↦ inText_of_not_inFragment
  have some_of {x : String} (h : IsText x) : ∀ y ∈ some x, IsText y :=
    fun y hy ↦ Option.some.inj hy ▸ h
  have none_of : ∀ y ∈ (none : Option String), IsText y := fun y hy ↦ nomatch hy
  unfold complete
  dsimp only
  split
  · split
    · exact ⟨hs, ha, hp _ hfront, some_of (hquery _), some_of (hfragment _)⟩
    · exact ⟨hs, ha, hp _ hfront, some_of (hquery _), none_of⟩
  · exact ⟨hs, ha, hp _ hfront, none_of, some_of (hfragment _)⟩
  · exact ⟨hs, ha, hp _ hfront, none_of, none_of⟩

theorem inFront_toLower (h : inScheme c) : inFront c.toLower := by
  have all : ∀ n : Fin 128, inScheme (Char.ofNat n) → inFront (Char.ofNat n).toLower := by decide
  have hc : c.toNat < 128 := by
    rcases Bool.or_eq_true _ _ ▸ h with h | h
    · exact Text.lt_of_isAlphanum h
    · simp only [List.contains_eq_mem, List.mem_cons, List.not_mem_nil, or_false,
        decide_eq_true_eq] at h
      rcases h with rfl | rfl | rfl <;> decide
  have := all ⟨c.toNat, hc⟩
  rw [Char.ofNat_toNat] at this
  exact this h

theorem isFront_readScheme (h : readScheme s = some (scheme, t)) : IsFront scheme := by
  unfold readScheme at h
  split at h
  · cases h
  · split at h
    · split at h
      · rename_i front rest hspan
        obtain ⟨rfl, -⟩ := Prod.mk.inj (Option.some.inj h)
        rw [List.span_eq_takeWhile_dropWhile, Prod.mk.injEq] at hspan
        intro c hc
        rw [String.toList_ofList, List.mem_map] at hc
        obtain ⟨d, hd, rfl⟩ := hc
        exact inFront_toLower (List.mem_takeWhile_imp (hspan.1 ▸ hd))
      · cases h
    · cases h

theorem isEncoded_readFile {u : Url} (h : readFile s = .ok u) : u.IsEncoded := by
  have folder : ∀ (host : String) (s : List Char), IsFront host → ∀ isLocal : Bool,
      ({ complete "file" none (readPath "file") s with
        authority := some { host := if isLocal then "" else host } } : Url).IsEncoded := by
    intro host s hhost isLocal
    have hc : (complete "file" none (readPath "file") s).IsEncoded :=
      isEncoded_complete (by decide) (fun a ha ↦ absurd ha (Option.not_mem_none a)) fun s _ ↦
        isFront_readPath "file" s
    refine { hc with authority := ?_ }
    intro a ha
    obtain rfl := Option.some.inj ha
    cases isLocal
    · exact ⟨isFront_empty, isFront_empty, hhost⟩
    · exact ⟨isFront_empty, isFront_empty, isFront_empty⟩
  unfold readFile at h
  dsimp only at h
  split at h
  · split at h
    · split at h
      · exact Except.ok.inj h ▸ folder _ _ isFront_empty _
      · split at h
        · exact Except.ok.inj h ▸ folder _ _ isFront_empty _
        · obtain ⟨host, hhost, h⟩ := exists_of_bind h
          refine Except.ok.inj h ▸ folder _ _ ?_ _
          split
          · exact isFront_empty
          · exact isFront_specialHost hhost
    · exact Except.ok.inj h ▸ folder _ _ isFront_empty _
  · exact Except.ok.inj h ▸ folder _ _ isFront_empty _

/-- Every URL that is read has been encoded. -/
theorem isEncoded_ofText {u : Url} (h : ofText source = .ok u) : u.IsEncoded := by
  unfold ofText at h
  split at h
  · cases h
  · rename_i scheme s hscheme
    have hs := isFront_readScheme hscheme
    have hpath : ∀ s, (∀ c ∈ s, endsPath c = false) → (readPath scheme s).IsFront :=
      fun s _ ↦ isFront_readPath scheme s
    have some_of {a : Authority} (ha : a.IsFront) : ∀ b ∈ some a, b.IsFront :=
      fun b hb ↦ Option.some.inj hb ▸ ha
    have hnone : ∀ a ∈ (none : Option Authority), a.IsFront :=
      fun a ha ↦ absurd ha (Option.not_mem_none a)
    split at h
    · exact isEncoded_readFile h
    · split at h
      · obtain ⟨⟨authority, rest⟩, ha, h⟩ := exists_of_bind h
        exact Except.ok.inj h ▸ isEncoded_complete hs (some_of (isFront_readAuthority ha)) hpath
      · split at h
        · obtain ⟨⟨authority, rest⟩, ha, h⟩ := exists_of_bind h
          exact Except.ok.inj h ▸ isEncoded_complete hs (some_of (isFront_readAuthority ha)) hpath
        · exact Except.ok.inj h ▸ isEncoded_complete hs hnone fun s _ ↦ isFront_readSegments _ s
        · refine Except.ok.inj h ▸ isEncoded_complete hs hnone fun s hs ↦ ?_
          refine isFront_encodeText fun c hc he ↦ ?_
          have := hs c hc
          simp only [endsPath, Bool.or_eq_false_iff, decide_eq_false_iff_not] at this
          simp [inFront, inText_of_not_isControl he, this.1, this.2]

variable {u : Url}

theorem Authority.IsFront.userinfo {a : Authority} (h : a.IsFront) : Url.IsFront a.userinfo := by
  unfold Authority.userinfo
  split
  · exact isFront_empty
  · split
    · exact h.username.append (isFront_singleton (c := '@') rfl)
    · exact ((h.username.append (isFront_singleton (c := ':') rfl)).append h.password).append
        (isFront_singleton (c := '@') rfl)

theorem Authority.IsFront.address {a : Authority} (h : a.IsFront) : Url.IsFront a.address := by
  unfold Authority.address
  apply h.host.append
  split
  · exact (isFront_singleton (c := ':') rfl).append (isFront_toString _)
  · exact isFront_empty

theorem Path.IsFront.text {p : Path} (h : p.IsFront) : Url.IsFront p.text := by
  cases p with
  | rootless s => exact h
  | rooted ss =>
    intro c hc
    have hjoin : (String.join (ss.map fun s ↦ "/" ++ s)).toList =
        ss.flatMap fun s ↦ '/' :: s.toList := by
      simp [String.toList_join, List.flatMap_map]
    rw [Path.text, hjoin, List.mem_flatMap] at hc
    obtain ⟨s, hs, hc⟩ := hc
    rcases List.mem_cons.1 hc with rfl | hc
    · rfl
    · exact h s hs c hc

theorem IsEncoded.guarded (h : u.IsEncoded) : IsFront (guarded u.authority u.path) := by
  unfold Url.guarded
  split
  · exact (by decide : IsFront "/.").append (Path.IsFront.text (‹u.path = _› ▸ h.path))
  · exact h.path.text

def frontText (u : Url) : String :=
  u.scheme ++ ":" ++
    (match u.authority with
      | some a => "//" ++ a.userinfo ++ a.address
      | none => "") ++ guarded u.authority u.path

theorem IsEncoded.frontText (h : u.IsEncoded) : IsFront u.frontText := by
  have hauthority : IsFront (match u.authority with
      | some a => "//" ++ a.userinfo ++ a.address
      | none => "") := by
    split
    · rename_i a ha
      have hfront := h.authority a ha
      exact ((by decide : IsFront "//").append hfront.userinfo).append hfront.address
    · exact isFront_empty
  exact ((h.scheme.append (by decide)).append hauthority).append h.guarded

theorem text_eq (u : Url) :
    u.text = u.frontText ++ following "?" u.query ++ following "#" u.fragment := rfl

theorem isText_following {mark : String} {o : Option String} (hm : IsText mark)
    (h : ∀ s ∈ o, IsText s) : IsText (following mark o) := by
  cases o with
  | none => exact isFront_empty.isText
  | some s => exact hm.append (h s rfl)

theorem isFieldText_ofText (h : ofText source = .ok u) : Http.isFieldText u.text := by
  have he := isEncoded_ofText h
  have hq : IsText "?" := by
    intro c hc
    obtain rfl := List.mem_singleton.1 hc
    decide
  have hf : IsText "#" := by
    intro c hc
    obtain rfl := List.mem_singleton.1 hc
    decide
  rw [text_eq]
  exact ((he.frontText.isText.append (isText_following hq he.query)).append
    (isText_following hf he.fragment)).isFieldText

theorem IsEncoded.asFolder (h : u.IsEncoded) : u.asFolder.IsEncoded := by
  have hslashed : ∀ ss : List String, (∀ s ∈ ss, IsFront s) → ∀ s ∈ slashed ss, IsFront s := by
    intro ss hss
    induction ss with
    | nil => decide
    | cons s ss ih =>
      cases ss with
      | nil =>
        intro t ht
        rw [slashed] at ht
        split at ht
        · exact hss t ht
        · rcases List.mem_cons.1 ht with rfl | ht
          · exact hss t List.mem_cons_self
          · exact List.mem_singleton.1 ht ▸ isFront_empty
      | cons t rest =>
        intro x hx
        rw [slashed] at hx
        rcases List.mem_cons.1 hx with rfl | hx
        · exact hss x List.mem_cons_self
        · exact ih (fun y hy ↦ hss y (List.mem_cons_of_mem s hy)) x hx
  refine ⟨h.scheme, h.authority, ?_, fun q hq ↦ absurd hq (Option.not_mem_none q),
    fun f hf ↦ absurd hf (Option.not_mem_none f)⟩
  have hpath := h.path
  unfold Url.asFolder
  dsimp only
  split
  · rename_i ss hss
    rw [hss] at hpath
    exact hslashed ss hpath
  · exact hpath

end Url

theorem Links.isFront_base {text : String} {l : Links} (h : Links.ofText text = .ok l) :
    Url.IsFront l.base.text := by
  obtain ⟨base, hbase, h⟩ := exists_of_bind h
  have hl : l.base = base := by
    split at h
    · split at h
      · cases h
      · exact Except.ok.inj h ▸ rfl
    · cases h
  obtain ⟨u, hu, hbase⟩ := exists_of_bind hbase
  have hu' : Url.ofText text = .ok u := by
    cases ht : Url.ofText text with
    | error e =>
      rw [ht] at hu
      cases hu
    | ok v =>
      rw [ht] at hu
      exact congrArg _ (Except.ok.inj hu)
  have he := (Url.isEncoded_ofText hu').asFolder
  have hfolder : base = u.asFolder := by
    split at hbase
    · exact (Except.ok.inj hbase).symm
    · cases hbase
  rw [hl, hfolder, Url.text_eq]
  exact (he.frontText.append Url.isFront_empty).append Url.isFront_empty

end Gatehouse
