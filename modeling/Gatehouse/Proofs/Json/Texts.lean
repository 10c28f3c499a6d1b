import Gatehouse.Proofs.Json.Spelling

namespace Gatehouse.Json

open Octets (ofChars ofChars_nil ofChars_cons ofChars_append encode_of_ascii le_of_mem_encode)

variable {c : Char} {cs : List Char} {b : UInt8} {n : Nat} {k o p : Octets}

theorem isBare_of_mem_encode (hq : c ≠ '"') (hs : c ≠ '\\') (hn : 32 ≤ c.toNat)
    (hb : b ∈ String.utf8EncodeChar c) : IsBare b := by
  rcases Nat.lt_or_ge c.toNat 128 with h | h
  · rw [encode_of_ascii h, List.mem_singleton] at hb
    have hv : b.toNat = c.toNat := by
      rw [hb, UInt8.toNat_ofNat']
      omega
    refine ⟨?_, ?_, ?_⟩
    · rintro rfl
      exact hq (Char.toNat_inj.1 hv.symm)
    · rintro rfl
      exact hs (Char.toNat_inj.1 hv.symm)
    · rw [UInt8.lt_iff_toNat_lt, hv]
      exact Nat.not_lt.2 hn
  · have hv := le_of_mem_encode h hb
    refine ⟨?_, ?_, ?_⟩
    · rintro rfl
      revert hv
      decide
    · rintro rfl
      revert hv
      decide
    · rw [UInt8.lt_iff_toNat_lt]
      change ¬b.toNat < 32
      omega

theorem hexQuad_control (h : n < 32) :
    hexQuad 48 48 (UInt8.ofNat (Octets.hexDigit (n / 16)).toNat)
      (UInt8.ofNat (Octets.hexDigit (n % 16)).toNat) = some n := by
  have all : ∀ n : Fin 32, hexQuad 48 48 (UInt8.ofNat (Octets.hexDigit (n.val / 16)).toNat)
      (UInt8.ofNat (Octets.hexDigit (n.val % 16)).toNat) = some n.val := by decide
  exact all ⟨n, h⟩

theorem escapes_control (h : c.toNat < 32) :
    Escapes (ofChars ['u', '0', '0', Octets.hexDigit (c.toNat / 16),
      Octets.hexDigit (c.toNat % 16)]) (ofChars [c]) := by
  have digit : ∀ n : Fin 16, (Octets.hexDigit n).toNat < 128 := by decide
  have h₁ := digit ⟨c.toNat / 16, by omega⟩
  have h₂ := digit ⟨c.toNat % 16, by omega⟩
  have hc : charOctets c.toNat = ofChars [c] := by
    rw [charOctets, Char.ofNat_toNat, Octets.ofText_eq]
    simp
  have hlow : isLowSurrogate c.toNat = false := by
    simp only [isLowSurrogate, Bool.and_eq_false_imp, decide_eq_true_eq, decide_eq_false_iff_not]
    omega
  have hhigh : isHighSurrogate c.toNat = false := by
    simp only [isHighSurrogate, Bool.and_eq_false_imp, decide_eq_true_eq, decide_eq_false_iff_not]
    omega
  have hn := Escapes.unit (hexQuad_control h) hlow hhigh
  rw [hc] at hn
  simp only [ofChars_cons, ofChars_nil, encode_of_ascii h₁, encode_of_ascii h₂]
  exact hn

/-- A character stands between quotes as itself or as an escape. -/
theorem escaped_cases (c : Char) :
    (escaped c = [c] ∧ ∀ b ∈ ofChars [c], IsBare b) ∨
      ∃ e, ofChars (escaped c) = 92 :: e ∧ Escapes e (ofChars [c]) := by
  unfold escaped
  split
  case h_8 hq hs _ _ _ _ _ =>
    by_cases hn : c.toNat < 32
    · refine .inr ⟨_, ?_, escapes_control hn⟩
      simp only [hn, if_true]
      rfl
    · refine .inl ⟨by simp only [hn, if_false], fun b hb ↦ ?_⟩
      rw [ofChars_cons, ofChars_nil, List.append_nil] at hb
      exact isBare_of_mem_encode hq hs (Nat.not_lt.1 hn) hb
  all_goals exact .inr ⟨_, rfl, .simple rfl⟩

theorem Spells.bares (hp : ∀ b ∈ p, IsBare b) (h : Spells k o) : Spells (p ++ k) (p ++ o) := by
  induction p with
  | nil => exact h
  | cons b p ih =>
    exact .bare (hp b List.mem_cons_self) (ih fun c hc ↦ hp c (List.mem_cons_of_mem b hc))

theorem spells_escaped (cs : List Char) : Spells (ofChars (cs.flatMap escaped)) (ofChars cs) := by
  induction cs with
  | nil => exact .nil
  | cons c cs ih =>
    have hchars : ofChars (c :: cs) = ofChars [c] ++ ofChars cs := by
      rw [← ofChars_append]
      rfl
    rw [List.flatMap_cons, ofChars_append, hchars]
    rcases escaped_cases c with ⟨he, hb⟩ | ⟨e, he, hr⟩
    · rw [he]
      exact ih.bares hb
    · rw [he]
      exact .escape hr ih

def closing (s : String) : Octets := ofChars (s.toList.flatMap escaped) ++ [34]

theorem ofChars_quote (s : String) : ofChars (quote s) = 34 :: closing s := by
  rw [quote, ofChars_append, ofChars_cons, closing]
  rfl

theorem scanText_closing (s : String) (o : Octets) :
    scanText (closing s ++ o) = .ok (.ok s, o) := by
  have hspells : Spells (ofChars (s.toList.flatMap escaped)) (Octets.ofText s) := by
    rw [Octets.ofText_eq]
    exact spells_escaped s.toList
  obtain ⟨r, hscan, htold⟩ := scanText_of_skimmed hspells.skimmed o
  rw [closing, List.append_assoc, List.singleton_append, hscan, (htold s).2 hspells]

end Gatehouse.Json
