import Gatehouse.Proofs.Instant.Stamps
import Gatehouse.Proofs.Token.Query
import Gatehouse.Proofs.Url.Characters

namespace Gatehouse

namespace Http.NewCookie

open Url (IsFront IsText)

variable {c : Char} {s : String} {cookie : NewCookie}

theorem inText_of_not_isEncoded (h : isEncoded c = false) : Url.inText c := by
  simp only [isEncoded, Bool.or_eq_false_iff] at h
  have hfront := Url.inFront_of_not_inUserinfo h.1
  simp only [Url.inFront, Bool.and_eq_true] at hfront
  exact hfront.1.1

theorem isText_encoded (s : String) : IsText (encoded s) :=
  Url.isText_encodeText (fun _ ↦ inText_of_not_isEncoded) s.toList

theorem isEncoded_of_isPlain (h : Token.isPlain c) : isEncoded c = false := by
  have all : ∀ n : Fin 128, Token.isPlain (Char.ofNat n) → isEncoded (Char.ofNat n) = false := by
    decide
  have hc := all ⟨c.toNat, Token.lt_of_isPlain h⟩
  rw [Char.ofNat_toNat] at hc
  exact hc h

theorem encoded_eq_self : encoded s = s ↔ ∀ c ∈ s.toList, isEncoded c = false := by
  rw [encoded, ← Url.percentEncode_eq_self, ← String.toList_inj, String.toList_ofList]

theorem encoded_of_isPlain (h : ∀ c ∈ s.toList, Token.isPlain c) : encoded s = s :=
  encoded_eq_self.2 fun c hc ↦ isEncoded_of_isPlain (h c hc)

theorem lt_of_not_isEncoded (h : isEncoded c = false) : c.toNat < 128 := by
  simp only [isEncoded, Url.inUserinfo, Url.inPath, Url.inFragment, Url.isControl,
    Bool.or_eq_false_iff, decide_eq_false_iff_not] at h
  omega

/-- Neither names nor values of cookies are cut or trimmed when they are read again. -/
theorem isCompact_encoded (s : String) : Cookie.IsCompact (encoded s) := by
  have all : ∀ n : Fin 128, isEncoded (Char.ofNat n) = false ∨ Char.ofNat n = '%' ∨
      (Char.ofNat n).isAlphanum → Char.ofNat n ≠ ';' ∧ Char.ofNat n ≠ '=' ∧
        Text.isBlank (Char.ofNat n) = false := by
    decide
  intro c hc
  rw [encoded, String.toList_ofList] at hc
  have hcases : isEncoded c = false ∨ c = '%' ∨ c.isAlphanum :=
    (Url.mem_percentEncode_cases hc).imp_left And.right
  have hlt : c.toNat < 128 := by
    rcases hcases with h | rfl | h
    · exact lt_of_not_isEncoded h
    · decide
    · exact Text.lt_of_isAlphanum h
  have hchar := all ⟨c.toNat, hlt⟩
  rw [Char.ofNat_toNat] at hchar
  exact hchar hcases

theorem encoded_ne_empty (h : s ≠ "") : encoded s ≠ "" := by
  intro he
  have hl := Url.length_le_percentEncode isEncoded s.toList
  rw [← String.toList_ofList (l := Url.percentEncode isEncoded s.toList), ← encoded, he] at hl
  exact h (String.toList_inj.1 (List.eq_nil_of_length_eq_zero (Nat.le_zero.1 hl)))

/-- The characters of names, as the standard for cookies has them, that are encoded all the same. -/
theorem isEncoded_iff_of_isTokenChar (h : isTokenChar c) :
    isEncoded c ↔ c ∈ ['#', '%', '^', '\x60', '|'] := by
  have all : ∀ n : Fin 128, isTokenChar (Char.ofNat n) →
      (isEncoded (Char.ofNat n) ↔ Char.ofNat n ∈ ['#', '%', '^', '\x60', '|']) := by
    decide
  have hlt : c.toNat < 128 := by
    simp only [isTokenChar, Bool.or_eq_true, List.contains_iff_mem] at h
    rcases h with h | h
    · exact Text.lt_of_isAlphanum h
    · have hsigns : (['!', '#', '$', '%', '&', '\'', '*', '+', '-', '.', '^', '_', '\x60', '|',
          '~'].all fun d ↦ d.toNat < 128) = true := by decide
      exact of_decide_eq_true (List.all_eq_true.1 hsigns c h)
  have hc := all ⟨c.toNat, hlt⟩
  rw [Char.ofNat_toNat] at hc
  exact hc h

theorem isFront_getD {ss : List String} (h : ∀ s ∈ ss, IsFront s) (n : Nat) :
    IsFront (ss.getD n "") := by
  rw [List.getD_eq_getElem?_getD]
  cases hs : ss[n]? with
  | none => exact Url.isFront_empty
  | some s => exact h s (List.mem_of_getElem? hs)

theorem isFront_padded (m n : Nat) : IsFront (String.ofList (Instant.padded m n)) := by
  intro c hc
  rw [String.toList_ofList, Instant.padded, List.mem_append] at hc
  rcases hc with hc | hc
  · rw [List.eq_of_mem_replicate hc]
    rfl
  · exact Url.inFront_of_mem_toDigits (by decide) (by decide) hc

theorem isFront_int (n : Int) : IsFront (toString n) := by
  cases n with
  | ofNat n => exact Url.isFront_toString n
  | negSucc n => exact (by decide : IsFront "-").append (Url.isFront_toString (n + 1))

theorem isFront_dateText (a : Instant) : IsFront (dateText a) := by
  have hdays : ∀ s ∈ weekdays, IsFront s := by decide
  have hmonths : ∀ s ∈ months, IsFront s := by decide
  have hcomma : IsFront ", " := by decide
  have hspace : IsFront " " := by decide
  have hcolon : IsFront ":" := by decide
  have hzone : IsFront " GMT" := by decide
  have hyear (n : Int) : IsFront s!" {n} " := (hspace.append (isFront_int n)).append hspace
  have htwo := isFront_padded 2
  have hday := isFront_getD hdays
  have hmonth := isFront_getD hmonths
  unfold dateText
  exact (((((((((((hday _).append hcomma).append (htwo _)).append hspace).append
    (hmonth _)).append (hyear _)).append (htwo _)).append hcolon).append (htwo _)).append
    hcolon).append (htwo _)).append hzone

theorem mem_of_mem_bare {domain : String} (h : c ∈ (bare domain).toList) : c ∈ domain.toList := by
  rw [bare, String.toList_ofList] at h
  cases hd : Text.after? ['.'] domain.toList with
  | none =>
    rw [hd] at h
    exact h
  | some rest =>
    rw [hd] at h
    rw [Text.after?_eq_some.1 hd]
    exact List.mem_append_right _ h

theorem isFieldText_text (h : ∀ d ∈ cookie.domain, isFieldText d) : isFieldText cookie.text := by
  have hname := (isText_encoded cookie.name).isFieldText
  have hvalue := (isText_encoded cookie.value).isFieldText
  have hdate := (isFront_dateText cookie.expires).isText.isFieldText
  have hsecure : isFieldText (if cookie.secure then "; Secure" else "") := by
    cases cookie.secure <;> rfl
  have hpath : isFieldText "; Path=/" := by decide
  have hexpires : isFieldText "; Expires=" := by decide
  have hequals : isFieldText "=" := by decide
  have hflags : isFieldText "; HttpOnly; SameSite=Lax" := by decide
  have hdomain (domain : String) (hd : isFieldText domain) :=
    isFieldText_append (isFieldText_append (isFieldText_append (isFieldText_append
      (isFieldText_append (isFieldText_append (isFieldText_append (isFieldText_append hname
      hequals) hvalue) hflags) hsecure) hpath) hd) hexpires) hdate
  unfold text
  cases hc : cookie.domain with
  | none => exact hdomain "" rfl
  | some d =>
    exact hdomain ("; Domain=" ++ bare d) <|
      isFieldText_append (by decide) (isFieldText_of_subset (h d hc) fun _ ↦ mem_of_mem_bare)

theorem isFieldText_of_bare {domain : String} (h : isFieldText (bare domain)) :
    isFieldText domain := by
  rw [isFieldText_iff] at h ⊢
  intro c hc
  rw [bare, String.toList_ofList] at h
  cases hd : Text.after? ['.'] domain.toList with
  | none =>
    rw [hd] at h
    exact h c hc
  | some rest =>
    rw [hd] at h
    rw [Text.after?_eq_some.1 hd] at hc
    rcases List.mem_cons.1 hc with rfl | hc
    · decide
    · exact h c hc

theorem isFieldText_text_iff :
    isFieldText cookie.text ↔ ∀ d ∈ cookie.domain, isFieldText d := by
  refine ⟨fun h d hd ↦ isFieldText_of_bare (isFieldText_of_subset h fun c hc ↦ ?_),
    isFieldText_text⟩
  have hdomain : cookie.domain = some d := hd
  simp only [text, hdomain, String.toList_append, List.mem_append]
  simp only [hc, or_true, true_or]

theorem text_eq (cookie : NewCookie) :
    ∃ rest, cookie.text = encoded cookie.name ++ "=" ++ encoded cookie.value ++ "; " ++ rest := by
  have hattributes : "; HttpOnly; SameSite=Lax" = "; " ++ "HttpOnly; SameSite=Lax" := rfl
  have hrest (domain : String) : ∃ rest,
      encoded cookie.name ++ "=" ++ encoded cookie.value ++ "; HttpOnly; SameSite=Lax" ++
        (if cookie.secure then "; Secure" else "") ++ "; Path=/" ++ domain ++ "; Expires=" ++
        dateText cookie.expires =
      encoded cookie.name ++ "=" ++ encoded cookie.value ++ "; " ++ rest := by
    refine ⟨"HttpOnly; SameSite=Lax" ++ ((if cookie.secure then "; Secure" else "") ++
      ("; Path=/" ++ (domain ++ ("; Expires=" ++ dateText cookie.expires)))), ?_⟩
    rw [hattributes]
    simp only [String.append_assoc]
  unfold text
  cases cookie.domain with
  | none => exact hrest ""
  | some d => exact hrest ("; Domain=" ++ bare d)

end Http.NewCookie

theorem SessionId.isPlain_text {i : SessionId} {c : Char} (h : c ∈ i.text.toList) :
    Token.isPlain c := Token.isPlain_encode h

end Gatehouse
