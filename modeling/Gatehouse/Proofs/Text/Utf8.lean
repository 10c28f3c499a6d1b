import Gatehouse.Octets

namespace Gatehouse

theorem Text.toNat_of_isAlphanum {c : Char} (h : c.isAlphanum) :
    (65 ≤ c.toNat ∧ c.toNat ≤ 90 ∨ 97 ≤ c.toNat ∧ c.toNat ≤ 122) ∨
      48 ≤ c.toNat ∧ c.toNat ≤ 57 := by
  have hvals : (decide ('A'.val ≤ c.val ∧ c.val ≤ 'Z'.val) ||
      decide ('a'.val ≤ c.val) && decide (c.val ≤ 'z'.val) ||
      decide ('0'.val ≤ c.val) && decide (c.val ≤ '9'.val)) = true := h
  simp only [Bool.or_eq_true, Bool.and_eq_true, decide_eq_true_eq, UInt32.le_iff_toNat_le] at hvals
  exact hvals

theorem Text.lt_of_isAlphanum {c : Char} (h : c.isAlphanum) : c.toNat < 128 := by
  have hn := toNat_of_isAlphanum h
  omega

namespace Octets

variable {c : Char} {b : UInt8} {s t : List Char}

/-- The UTF-8 form of a text, one character after the other. -/
def ofChars (s : List Char) : Octets := s.flatMap String.utf8EncodeChar

@[simp] theorem ofChars_nil : ofChars [] = [] := rfl

@[simp] theorem ofChars_cons (c : Char) (s : List Char) :
    ofChars (c :: s) = String.utf8EncodeChar c ++ ofChars s := rfl

@[simp] theorem ofChars_append (s t : List Char) : ofChars (s ++ t) = ofChars s ++ ofChars t :=
  List.flatMap_append

@[simp] theorem ofText_ofList (s : List Char) : ofText (String.ofList s) = ofChars s := by
  rw [ofText, String.toByteArray_ofList]
  simp [List.utf8Encode, ofChars]

theorem ofText_eq (s : String) : ofText s = ofChars s.toList := by
  rw [← ofText_ofList, String.ofList_toList]

theorem text?_ofChars (s : List Char) : (ofChars s).text? = some (String.ofList s) := by
  rw [← ofText_ofList, text?_ofText]

theorem ofText_of_text? {o : Octets} {s : String} (h : o.text? = some s) : ofText s = o := by
  unfold text? String.fromUTF8? at h
  split at h
  · cases h
    rfl
  · cases h

theorem encode_of_ascii (h : c.toNat < 128) :
    String.utf8EncodeChar c = [UInt8.ofNat c.toNat] := by
  have hc : c.val.toNat ≤ 127 := Nat.le_of_lt_succ h
  rw [String.utf8EncodeChar, if_pos hc]
  rfl

theorem le_of_mem_encode (h : 128 ≤ c.toNat) (hb : b ∈ String.utf8EncodeChar c) :
    128 ≤ b.toNat := by
  have hc : ¬c.val.toNat ≤ 127 := Nat.not_le.2 h
  unfold String.utf8EncodeChar at hb
  simp only [hc, if_false] at hb
  split at hb
  · simp only [List.mem_cons, List.not_mem_nil, or_false] at hb
    rcases hb with rfl | rfl <;> simp <;> omega
  · split at hb
    · simp only [List.mem_cons, List.not_mem_nil, or_false] at hb
      rcases hb with rfl | rfl | rfl <;> simp <;> omega
    · simp only [List.mem_cons, List.not_mem_nil, or_false] at hb
      rcases hb with rfl | rfl | rfl | rfl <;> simp <;> omega

theorem ofChars_of_ascii (h : ∀ c ∈ s, c.toNat < 128) :
    ofChars s = s.map fun c ↦ UInt8.ofNat c.toNat := by
  induction s with
  | nil => rfl
  | cons c s ih =>
    have hc := h c List.mem_cons_self
    have hs := ih fun d hd ↦ h d (List.mem_cons_of_mem c hd)
    rw [ofChars_cons, encode_of_ascii hc, hs]
    rfl

theorem lossyFrom_ofChars_of_ascii {fuel : Nat} (h : ∀ c ∈ s, c.toNat < 128)
    (hf : s.length ≤ fuel) : lossyFrom fuel (ofChars s) = s := by
  induction s generalizing fuel with
  | nil => cases fuel <;> rfl
  | cons c s ih =>
    obtain ⟨fuel, rfl⟩ : ∃ n, fuel = n + 1 := Nat.exists_eq_add_one.2 (by simp at hf; omega)
    have hc := h c List.mem_cons_self
    have hs := ih (fun d hd ↦ h d (List.mem_cons_of_mem c hd)) (Nat.le_of_succ_le_succ hf)
    have hl : lead (UInt8.ofNat c.toNat) = some (0, 0, 0) := by
      have hn : (UInt8.ofNat c.toNat).toNat < 0x80 := by
        rw [UInt8.toNat_ofNat']
        omega
      simp only [lead, hn, if_true]
    have ht : text? [UInt8.ofNat c.toNat] = some (String.ofList [c]) := by
      rw [← encode_of_ascii hc, ← text?_ofChars, ofChars_cons, ofChars_nil, List.append_nil]
    rw [ofChars_cons, encode_of_ascii hc, List.singleton_append]
    simp only [lossyFrom, hl, continuation, ht, hs]
    simp

theorem lossyText_ofChars_of_ascii (h : ∀ c ∈ s, c.toNat < 128) :
    lossyText (ofChars s) = String.ofList s := by
  have hl : (ofChars s).length = s.length := by
    rw [ofChars_of_ascii h, List.length_map]
  rw [lossyText, lossyFrom_ofChars_of_ascii h (Nat.le_of_eq hl.symm)]

end Octets

end Gatehouse
