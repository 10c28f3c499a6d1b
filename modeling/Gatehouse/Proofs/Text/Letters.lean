import Mathlib.Data.List.Forall2
import Gatehouse.Proofs.Text.Base64

namespace Gatehouse.Base64

variable {a : Alphabet} {m n : Nat} {vs ws : List Nat} {o o' : Octets} {s : String} {c : Char}

def letter (a : Alphabet) (n : Nat) : Char := Char.ofNat (symbol a n).toNat

def isLetter (c : Char) : Bool := c.isAlphanum || c = '-' || c = '_'

theorem toNat_letter (a : Alphabet) (h : n < 64) : (letter a n).toNat = (symbol a n).toNat :=
  toNat_ofNat_of_lt (symbol_lt a h)

theorem isLetter_iff : isLetter c ↔ ∃ n < 64, c = letter .urlSafe n := by
  constructor
  · intro h
    have hc : c.toNat < 128 := by
      simp only [isLetter, Bool.or_eq_true, decide_eq_true_eq] at h
      rcases h with (h | h) | h
      · exact Text.lt_of_isAlphanum h
      · rw [h]
        decide
      · rw [h]
        decide
    have known : ∀ n : Fin 128,
        isLetter (Char.ofNat n) → value? .urlSafe (UInt8.ofNat n) ≠ none := by decide
    have hv := known ⟨c.toNat, hc⟩
    rw [Char.ofNat_toNat] at hv
    obtain ⟨n, hn⟩ := Option.ne_none_iff_exists'.1 (hv h)
    obtain ⟨hlt, hs⟩ := value?_eq_some hn
    refine ⟨n, hlt, ?_⟩
    rw [letter, ← hs, UInt8.toNat_ofNat', Nat.mod_eq_of_lt (Nat.lt_trans hc (by decide)),
      Char.ofNat_toNat]
  · intro h
    obtain ⟨n, hn, rfl⟩ := h
    have all : ∀ n : Fin 64, isLetter (letter .urlSafe n) := by decide
    exact all ⟨n, hn⟩

theorem eq_of_letter_eq (hn : n < 64) (hm : m < 64) (h : letter a n = letter .urlSafe m) :
    n = m := by
  have known : ∀ a, ∀ n : Fin 64, value? .urlSafe (symbol a n) ∈ [some n.val, none] := by
    intro a
    cases a <;> decide
  have hc := congrArg Char.toNat h
  rw [toNat_letter a hn, toNat_letter .urlSafe hm] at hc
  have hv := known a ⟨n, hn⟩
  rw [UInt8.toNat_inj.1 hc, value?_symbol .urlSafe hm] at hv
  simpa [eq_comm] using hv

theorem letter_ne (hn : n < 64) (h : c ∈ ['=', '.']) : letter a n ≠ c := by
  have all : ∀ a, ∀ n : Fin 64, letter a n ≠ '=' ∧ letter a n ≠ '.' := by
    intro a
    cases a <;> decide
  obtain ⟨hequals, hdot⟩ := all a ⟨n, hn⟩
  rcases List.mem_pair.1 h with rfl | rfl
  · exact hequals
  · exact hdot

theorem toList_encode (h : Groups o vs) :
    ∃ n, (encode a o).toList = vs.map (letter a) ++ List.replicate n '=' ∧
      (a = .urlSafe → n = 0) := by
  obtain ⟨n, hs, hn⟩ := symbols_of_groups (a := a) h
  refine ⟨n, ?_, hn⟩
  rw [encode, String.toList_ofList, hs, List.map_append, List.map_map, List.map_replicate]
  rfl

theorem toList_encode_urlSafe (h : Groups o vs) :
    (encode .urlSafe o).toList = vs.map (letter .urlSafe) := by
  obtain ⟨n, hs, hn⟩ := toList_encode (a := .urlSafe) h
  rw [hs, hn rfl, List.replicate_zero, List.append_nil]

theorem isLetter_of_mem_encode (h : c ∈ (encode .urlSafe o).toList) : isLetter c := by
  obtain ⟨vs, hvs⟩ := exists_groups o
  rw [toList_encode_urlSafe hvs] at h
  obtain ⟨v, hv, rfl⟩ := List.mem_map.1 h
  exact isLetter_iff.2 ⟨v, hvs.lt v hv, rfl⟩

theorem length_packed (vs : List Nat) : (packed vs).length = vs.length * 3 / 4 := by
  induction vs using packed.induct with
  | case1 p q r v rest ih =>
    simp only [packed, List.length_cons, ih]
    omega
  | case2 p q r => simp [packed]
  | case3 p q => simp [packed]
  | case4 p => simp [packed]
  | case5 => simp [packed]

theorem isTight_iff (h : vs.length % 4 = 2) : IsTight vs ↔ ∀ v ∈ vs.getLast?, v % 16 = 0 := by
  induction vs using packed.induct with
  | case1 p q r v rest ih =>
    have hrest : rest.length % 4 = 2 := by
      simp only [List.length_cons] at h
      omega
    have hlast : (p :: q :: r :: v :: rest).getLast? = rest.getLast? := by
      cases rest with
      | nil => cases hrest
      | cons w rest => simp [List.getLast?_cons]
    rw [IsTight, hlast]
    exact ih hrest
  | case2 p q r => cases h
  | case3 p q => simp [IsTight]
  | case4 p => cases h
  | case5 => cases h

/-- A text holds octets for whoever is not particular: about the alphabet, about the padding, and
about the bits that fill no octet. -/
def Carries (s : String) (o : Octets) : Prop :=
  ∃ cs vs n, s.toList = cs ++ List.replicate n '=' ∧ (∀ v ∈ vs, v < 64) ∧
    List.Forall₂ (fun c v ↦ ∃ a, c = letter a v) cs vs ∧ packed vs = o

theorem forall₂_letters (a : Alphabet) (vs : List Nat) :
    List.Forall₂ (fun c v ↦ ∃ a, c = letter a v) (vs.map (letter a)) vs := by
  rw [List.forall₂_map_left_iff, List.forall₂_same]
  exact fun v _ ↦ ⟨a, rfl⟩

theorem carries_encode (a : Alphabet) (o : Octets) : Carries (encode a o) o := by
  obtain ⟨vs, h⟩ := exists_groups o
  obtain ⟨n, hs, -⟩ := toList_encode (a := a) h
  exact ⟨_, vs, n, hs, h.lt, forall₂_letters a vs, h.fill⟩

theorem Carries.padded (h : Carries s o) (n : Nat) :
    Carries (s ++ String.ofList (List.replicate n '=')) o := by
  obtain ⟨cs, vs, k, hs, hvs⟩ := h
  refine ⟨cs, vs, k + n, ?_, hvs⟩
  rw [String.toList_append, hs, String.toList_ofList, List.append_assoc,
    List.replicate_append_replicate]

theorem Carries.dot_not_mem (h : Carries s o) : '.' ∉ s.toList := by
  obtain ⟨cs, vs, n, hs, hvs, hcs, -⟩ := h
  intro hdot
  rw [hs, List.mem_append] at hdot
  rcases hdot with hdot | hdot
  · obtain ⟨i, hi, hget⟩ := List.getElem_of_mem hdot
    have hi' : i < vs.length := hcs.length_eq ▸ hi
    obtain ⟨a, ha⟩ := hcs.get hi hi'
    exact letter_ne (hvs _ (List.getElem_mem hi')) (by decide) (ha.symm.trans hget)
  · exact absurd (List.mem_replicate.1 hdot).2 (by decide)

theorem Carries.ne_empty (h : Carries s o) (ho : o ≠ []) : s ≠ "" := by
  obtain ⟨cs, vs, n, hs, -, hcs, rfl⟩ := h
  intro hempty
  rw [hempty] at hs
  have hnil : cs = [] := (List.append_eq_nil_iff.1 hs.symm).1
  rw [hnil, List.forall₂_nil_left_iff] at hcs
  rw [hcs] at ho
  exact ho rfl

/-- What is base64 to whoever is particular, holds the same octets for everybody. -/
theorem Carries.eq_of_encode (h : Carries (encode .urlSafe o') o) : o = o' := by
  obtain ⟨ws, hws⟩ := exists_groups o'
  obtain ⟨cs, vs, n, hs, hvs, hcs, rfl⟩ := h
  rw [toList_encode_urlSafe hws] at hs
  have hn : n = 0 := by
    by_contra hn
    have hpad : '=' ∈ ws.map (letter .urlSafe) := by
      rw [hs, List.mem_append, List.mem_replicate]
      exact .inr ⟨hn, rfl⟩
    obtain ⟨w, hmem, hpad⟩ := List.mem_map.1 hpad
    exact letter_ne (hws.lt w hmem) (by decide) hpad
  rw [hn, List.replicate_zero, List.append_nil] at hs
  rw [← hs, List.forall₂_map_left_iff] at hcs
  have hsame : vs = ws := by
    refine List.ext_getElem hcs.length_eq.symm fun i hi hi' ↦ ?_
    obtain ⟨a, ha⟩ := hcs.get hi' hi
    exact eq_of_letter_eq (hvs _ (List.getElem_mem hi)) (hws.lt _ (List.getElem_mem hi')) ha.symm
  rw [← hws.fill, hsame]

end Gatehouse.Base64
