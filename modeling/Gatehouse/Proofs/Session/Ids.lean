import Gatehouse.Presented
import Gatehouse.Proofs.Text.Letters
import Gatehouse.Proofs.Text.Splitting

namespace Gatehouse

open Base64 (letter isLetter isLetter_iff length_packed isTight_iff)

variable {i : SessionId} {t v : String}

namespace SessionId

theorem ofText_eq_ok : ofText t = .ok i ↔ i.octets.length = size ∧ t = i.text := by
  constructor
  · intro h
    cases hd : Base64.decode .urlSafe t with
    | error e =>
      rw [ofText, hd] at h
      cases h
    | ok o =>
      simp only [ofText, hd] at h
      by_cases hl : o.length = size
      · rw [if_pos hl] at h
        cases h
        exact ⟨hl, Base64.decode_eq_ok.1 hd⟩
      · rw [if_neg hl] at h
        cases h
  · intro h
    obtain ⟨hl, ht⟩ := h
    have hd : Base64.decode .urlSafe t = .ok i.octets := Base64.decode_eq_ok.2 ht
    simp only [ofText, hd, hl, if_true]

theorem ofText_text (h : i.octets.length = size) : ofText i.text = .ok i :=
  ofText_eq_ok.2 ⟨h, rfl⟩

/-- The texts of session ids: 86 letters hold 516 bits, of which the last four are zero. -/
structure IsText (t : String) : Prop where
  length : t.toList.length = 86
  letters : ∀ c ∈ t.toList, isLetter c
  last : ∀ c ∈ t.toList.getLast?, c ∈ ['A', 'Q', 'g', 'w']

theorem last_letter_iff {n : Nat} (h : n < 64) :
    letter .urlSafe n ∈ ['A', 'Q', 'g', 'w'] ↔ n % 16 = 0 := by
  have all : ∀ n : Fin 64, letter .urlSafe n ∈ ['A', 'Q', 'g', 'w'] ↔ n.val % 16 = 0 := by decide
  exact all ⟨n, h⟩

theorem isText_text (h : i.octets.length = size) : IsText i.text := by
  obtain ⟨vs, hvs⟩ := Base64.exists_groups i.octets
  have hl : vs.length = 86 := by
    rw [← hvs.fill, length_packed, size] at h
    omega
  have htext : i.text.toList = vs.map (letter .urlSafe) := Base64.toList_encode_urlSafe hvs
  have hlast := (isTight_iff (by rw [hl])).1 hvs.tight
  constructor
  · rw [htext, List.length_map, hl]
  · intro c hc
    exact Base64.isLetter_of_mem_encode hc
  · intro c hc
    rw [htext, List.getLast?_map] at hc
    obtain ⟨n, hn, rfl⟩ := Option.map_eq_some_iff.1 hc
    exact (last_letter_iff (hvs.lt n (List.mem_of_getLast? hn))).2 (hlast n hn)

theorem exists_of_isText (h : IsText t) : ∃ i : SessionId, i.octets.length = size ∧ t = i.text := by
  have hletters : ∀ c ∈ t.toList, ∃ n < 64, c = letter .urlSafe n :=
    fun c hc ↦ isLetter_iff.1 (h.letters c hc)
  choose! value hvalue using hletters
  have hv : ∀ n ∈ t.toList.map value, n < 64 := by
    intro n hn
    obtain ⟨c, hc, rfl⟩ := List.mem_map.1 hn
    exact (hvalue c hc).1
  have hs : (t.toList.map value).map (letter .urlSafe) = t.toList := by
    rw [List.map_map]
    exact (List.map_congr_left fun c hc ↦ (hvalue c hc).2.symm).trans (List.map_id _)
  have hl : (t.toList.map value).length = 86 := by
    rw [List.length_map, h.length]
  have ht : Base64.IsTight (t.toList.map value) := by
    rw [isTight_iff (by rw [hl])]
    intro n hn
    rw [List.getLast?_map] at hn
    obtain ⟨c, hc, rfl⟩ := Option.map_eq_some_iff.1 hn
    obtain ⟨hlt, hletter⟩ := hvalue c (List.mem_of_getLast? hc)
    rw [← last_letter_iff hlt, ← hletter]
    exact h.last c hc
  have htext := Base64.toList_encode_urlSafe ⟨hv, ht, rfl⟩
  refine ⟨⟨Base64.packed (t.toList.map value)⟩, ?_, ?_⟩
  · rw [length_packed, hl, size]
  · rw [hs] at htext
    exact String.toList_inj.1 htext.symm

theorem exists_ofText_iff : (∃ i, ofText t = .ok i) ↔ IsText t := by
  constructor
  · intro h
    obtain ⟨i, hi⟩ := h
    obtain ⟨hl, rfl⟩ := ofText_eq_ok.1 hi
    exact isText_text hl
  · intro h
    obtain ⟨i, hi⟩ := exists_of_isText h
    exact ⟨i, ofText_eq_ok.2 hi⟩

end SessionId

theorem parseAuthorization_words {scheme : String} (h : ' ' ∉ scheme.toList) (t : String) :
    parseAuthorization (scheme ++ " " ++ t) =
      if scheme = SessionId.scheme then (SessionId.ofText t).mapError .invalidSessionId
      else .error (.unknownScheme scheme) := by
  have hcut : Text.cut ' ' (scheme ++ " " ++ t).toList = some (scheme.toList, t.toList) := by
    rw [String.toList_append, String.toList_append, List.append_assoc]
    exact Text.cut_append h t.toList
  rw [parseAuthorization, hcut]
  simp only [String.ofList_toList]

theorem parseAuthorization_word (h : ' ' ∉ v.toList) :
    parseAuthorization v = .error .malformed := by
  rw [parseAuthorization, Text.cut_eq_none.2 h]

theorem exists_words (h : ' ' ∈ v.toList) :
    ∃ scheme t, v = scheme ++ " " ++ t ∧ ' ' ∉ scheme.toList := by
  cases hcut : Text.cut ' ' v.toList with
  | none => exact absurd h (Text.cut_eq_none.1 hcut)
  | some words =>
    obtain ⟨scheme, t⟩ := words
    obtain ⟨hv, hb⟩ := Text.cut_eq_some.1 hcut
    refine ⟨String.ofList scheme, String.ofList t, ?_, by rwa [String.toList_ofList]⟩
    simp [← String.toList_inj, hv]

theorem parseAuthorization_scheme (t : String) :
    parseAuthorization (SessionId.scheme ++ " " ++ t) =
      (SessionId.ofText t).mapError .invalidSessionId := by
  rw [parseAuthorization_words (by decide), if_pos rfl]

theorem parseAuthorization_cases (v : String) : (∃ t, v = SessionId.scheme ++ " " ++ t) ∨
    ∃ p, parseAuthorization v = .error p ∧ p.isForwardable := by
  by_cases hb : ' ' ∈ v.toList
  · obtain ⟨scheme, t, rfl, hs⟩ := exists_words hb
    by_cases hscheme : scheme = SessionId.scheme
    · exact .inl ⟨t, by rw [hscheme]⟩
    · exact .inr ⟨_, by rw [parseAuthorization_words hs, if_neg hscheme], rfl⟩
  · exact .inr ⟨_, parseAuthorization_word hb, rfl⟩

theorem exists_of_parseAuthorization (h : parseAuthorization v = .ok i) :
    ∃ t, v = SessionId.scheme ++ " " ++ t ∧ SessionId.ofText t = .ok i := by
  rcases parseAuthorization_cases v with ⟨t, rfl⟩ | ⟨p, hp, -⟩
  · rw [parseAuthorization_scheme, mapError_eq_ok] at h
    exact ⟨t, rfl, h⟩
  · rw [h] at hp
    cases hp

theorem parseAuthorization_eq_ok :
    parseAuthorization v = .ok i ↔ i.octets.length = SessionId.size ∧ v = i.authorization := by
  constructor
  · intro h
    obtain ⟨t, hv, ht⟩ := exists_of_parseAuthorization h
    obtain ⟨hl, rfl⟩ := SessionId.ofText_eq_ok.1 ht
    exact ⟨hl, hv⟩
  · intro h
    obtain ⟨hl, rfl⟩ := h
    rw [SessionId.authorization, parseAuthorization_scheme, SessionId.ofText_text hl]
    rfl

theorem exists_parseAuthorization_iff : (∃ i, parseAuthorization v = .ok i) ↔
    ∃ t, SessionId.IsText t ∧ v = SessionId.scheme ++ " " ++ t := by
  simp only [← SessionId.exists_ofText_iff]
  constructor
  · intro h
    obtain ⟨i, hi⟩ := h
    obtain ⟨t, hv, ht⟩ := exists_of_parseAuthorization hi
    exact ⟨t, ⟨i, ht⟩, hv⟩
  · intro h
    obtain ⟨t, ⟨i, ht⟩, rfl⟩ := h
    exact ⟨i, by rw [parseAuthorization_scheme, ht, mapError_ok]⟩

theorem existsUnique_and_eq {α : Type} {p : Prop} (a : α) : (∃! b, p ∧ b = a) ↔ p :=
  ⟨fun h ↦ h.exists.choose_spec.1, fun h ↦ ⟨a, ⟨h, rfl⟩, fun _ hb ↦ hb.2⟩⟩

/-- Each session id is written in one way, as a text and as an `Authorization` value. The texts
that are read are all texts of the right length, letters and last letter; the values that are read
are those with such a text behind the scheme and one blank. -/
theorem SessionId.written_one_way :
    (∀ t i, ofText t = .ok i ↔ i.octets.length = size ∧ t = i.text) ∧
    (∀ v i, parseAuthorization v = .ok i ↔ i.octets.length = size ∧ v = i.authorization) ∧
    (∀ i, (∃! t, ofText t = .ok i) ↔ i.octets.length = size) ∧
    (∀ i, (∃! v, parseAuthorization v = .ok i) ↔ i.octets.length = size) ∧
    (∀ t, (∃ i, ofText t = .ok i) ↔ IsText t) ∧
    ∀ v, (∃ i, parseAuthorization v = .ok i) ↔ ∃ t, IsText t ∧ v = "SessionID" ++ " " ++ t := by
  refine ⟨fun t i ↦ ofText_eq_ok, fun v i ↦ parseAuthorization_eq_ok, fun i ↦ ?_, fun i ↦ ?_,
    fun t ↦ exists_ofText_iff, fun v ↦ exists_parseAuthorization_iff⟩
  · simp only [ofText_eq_ok]
    exact existsUnique_and_eq i.text
  · simp only [parseAuthorization_eq_ok]
    exact existsUnique_and_eq i.authorization

end Gatehouse
