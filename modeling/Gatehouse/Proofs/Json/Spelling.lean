import Gatehouse.Json.Reader
import Gatehouse.Proofs.Except
import Gatehouse.Proofs.Text.Utf8

namespace Gatehouse.Json

variable {b : UInt8} {fuel n : Nat} {e k o p rest rest' : Octets}

def IsBare (b : UInt8) : Prop := b ≠ 34 ∧ b ≠ 92 ∧ ¬b < 32

/-- What may stand behind a backslash, and the octets for which it stands. -/
inductive Escapes : Octets → Octets → Prop
  | simple {b c : UInt8} (h : simpleEscape b = some c) : Escapes [b] [c]
  | unit {a b c d : UInt8} {n : Nat} (h : hexQuad a b c d = some n)
      (hlow : isLowSurrogate n = false) (hhigh : isHighSurrogate n = false) :
      Escapes [117, a, b, c, d] (charOctets n)
  | pair {a b c d a' b' c' d' : UInt8} {high low : Nat} (h : hexQuad a b c d = some high)
      (hhigh : isHighSurrogate high = true) (h' : hexQuad a' b' c' d' = some low)
      (hlow : isLowSurrogate low = true) :
      Escapes [117, a, b, c, d, 92, 117, a', b', c', d']
        (charOctets (0x10000 + 1024 * (high - 0xD800) + (low - 0xDC00)))

inductive Spells : Octets → Octets → Prop
  | nil : Spells [] []
  | bare {b : UInt8} {k o : Octets} (hb : IsBare b) (h : Spells k o) : Spells (b :: k) (b :: o)
  | escape {e p k o : Octets} (he : Escapes e p) (h : Spells k o) :
      Spells (92 :: (e ++ k)) (p ++ o)

/-- What stands between quotes, for those who pass over it: halves of a character may stand alone,
and the octets need not be UTF-8. -/
inductive Skimmed : Octets → Prop
  | nil : Skimmed []
  | bare {b : UInt8} {k : Octets} (hb : IsBare b) (h : Skimmed k) : Skimmed (b :: k)
  | simple {b : UInt8} {k : Octets} (hb : (simpleEscape b).isSome) (h : Skimmed k) :
      Skimmed (92 :: b :: k)
  | unit {a b c d : UInt8} {n : Nat} {k : Octets} (hn : hexQuad a b c d = some n)
      (h : Skimmed k) : Skimmed (92 :: 117 :: a :: b :: c :: d :: k)

theorem Spells.skimmed (h : Spells k o) : Skimmed k := by
  induction h with
  | nil => exact .nil
  | bare hb _ ih => exact .bare hb ih
  | escape he _ ih =>
    cases he with
    | simple h => exact .simple (by rw [h]; rfl) ih
    | unit h => exact .unit h ih
    | pair h _ h' => exact .unit h (.unit h' ih)

theorem readQuad_of_hexQuad {a b c d : UInt8} (h : hexQuad a b c d = some n) (rest : Octets) :
    readQuad (a :: b :: c :: d :: rest) = .ok (n, rest) := by
  simp only [readQuad, h]

theorem exists_of_readQuad (h : readQuad o = .ok (n, rest)) :
    ∃ a b c d, o = a :: b :: c :: d :: rest ∧ hexQuad a b c d = some n := by
  unfold readQuad at h
  split at h
  · next a b c d o =>
    cases hn : hexQuad a b c d with
    | none => simp [hn] at h
    | some m =>
      simp only [hn, Except.ok.injEq, Prod.mk.injEq] at h
      obtain ⟨rfl, rfl⟩ := h
      exact ⟨a, b, c, d, rfl, hn⟩
  · cases h

theorem exists_of_readLowHalf {high : Nat} (h : readLowHalf high o = .ok (p, rest)) :
    ∃ a b c d low, o = 92 :: 117 :: a :: b :: c :: d :: rest ∧ hexQuad a b c d = some low ∧
      isLowSurrogate low = true ∧
      p = charOctets (0x10000 + 1024 * (high - 0xD800) + (low - 0xDC00)) := by
  unfold readLowHalf at h
  split at h
  · cases h
  · cases h
  · next o =>
    obtain ⟨⟨low, o'⟩, hq, hrest⟩ := exists_of_bind h
    obtain ⟨a, b, c, d, rfl, hn⟩ := exists_of_readQuad hq
    by_cases hlow : isLowSurrogate low = true
    · simp only [hlow, if_true, pure, Except.pure, Except.ok.injEq, Prod.mk.injEq] at hrest
      exact ⟨a, b, c, d, low, by rw [hrest.2], hn, hlow, hrest.1.symm⟩
    · simp only [hlow] at hrest
      cases hrest
  · cases h

theorem readEscape_of_escapes (h : Escapes e p) (rest : Octets) :
    readEscape (e ++ rest) = .ok (p, rest) := by
  cases h with
  | @simple b c h =>
    have hb : b ≠ 117 := by
      rintro rfl
      cases h
    simp [readEscape, h]
  | unit h hlow hhigh =>
    simp [readEscape, readQuad_of_hexQuad h, hlow, hhigh, bind, Except.bind, pure, Except.pure]
  | @pair a b c d a' b' c' d' high low h hhigh h' hlow' =>
    have hlow : isLowSurrogate high = false := by
      simp only [isLowSurrogate, isHighSurrogate, Bool.and_eq_true, decide_eq_true_eq,
        Bool.and_eq_false_imp, decide_eq_false_iff_not] at hhigh ⊢
      omega
    have hhalf : readLowHalf high (92 :: 117 :: a' :: b' :: c' :: d' :: rest) =
        .ok (charOctets (0x10000 + 1024 * (high - 0xD800) + (low - 0xDC00)), rest) := by
      simp only [readLowHalf, readQuad_of_hexQuad h', hlow', if_true, bind, Except.bind, pure,
        Except.pure]
    simp only [List.cons_append, List.nil_append, readEscape, readQuad_of_hexQuad h, hlow,
      hhigh, if_true, hhalf, bind, Except.bind]
    rfl

theorem exists_of_readEscape (h : readEscape o = .ok (p, rest)) :
    ∃ e, o = e ++ rest ∧ Escapes e p := by
  unfold readEscape at h
  split at h
  · cases h
  · next o =>
    obtain ⟨⟨n, o'⟩, hq, hrest⟩ := exists_of_bind h
    obtain ⟨a, b, c, d, rfl, hn⟩ := exists_of_readQuad hq
    by_cases hlow : isLowSurrogate n = true
    · simp only [hlow, if_true] at hrest
      cases hrest
    · by_cases hhigh : isHighSurrogate n = true
      · simp only [hlow, hhigh, if_true] at hrest
        obtain ⟨a', b', c', d', low, rfl, hn', hlow', hp⟩ := exists_of_readLowHalf hrest
        rw [hp]
        exact ⟨_, rfl, .pair hn hhigh hn' hlow'⟩
      · simp only [hlow, hhigh] at hrest
        cases hrest
        exact ⟨_, rfl, .unit hn (by simpa using hlow) (by simpa using hhigh)⟩
  · next b o _ =>
    cases hb : simpleEscape b with
    | none => simp [hb] at h
    | some c =>
      simp only [hb, Except.ok.injEq, Prod.mk.injEq] at h
      obtain ⟨rfl, rfl⟩ := h
      exact ⟨[b], rfl, .simple hb⟩

theorem skipText_of_skimmed (h : Skimmed k) (hf : k.length < fuel) :
    skipText fuel (k ++ 34 :: rest) = .ok rest := by
  obtain ⟨fuel, rfl⟩ := Nat.exists_eq_add_one.2 (Nat.zero_lt_of_lt hf)
  induction h generalizing fuel with
  | nil => rfl
  | @bare b k hb h ih =>
    rw [List.length_cons] at hf
    obtain ⟨fuel, rfl⟩ := Nat.exists_eq_add_one.2 (Nat.zero_lt_of_lt (Nat.lt_of_succ_lt_succ hf))
    rw [List.cons_append, skipText, if_neg hb.1, if_neg hb.2.1, if_neg hb.2.2,
      ih fuel (by omega)]
  | @simple b k hb h ih =>
    simp only [List.length_cons] at hf
    obtain ⟨fuel, rfl⟩ := Nat.exists_eq_add_one.2 (Nat.zero_lt_of_lt (Nat.lt_of_succ_lt_succ hf))
    have hskip : skipEscape (b :: (k ++ 34 :: rest)) = .ok (k ++ 34 :: rest) := by
      have hu : b ≠ 117 := by
        rintro rfl
        cases hb
      simp [skipEscape, hb]
    simp only [List.cons_append, skipText, hskip, bind, Except.bind, ih fuel (by omega)]
    rfl
  | @unit a b c d n k hn h ih =>
    simp only [List.length_cons] at hf
    obtain ⟨fuel, rfl⟩ := Nat.exists_eq_add_one.2 (Nat.zero_lt_of_lt (Nat.lt_of_succ_lt_succ hf))
    have hskip : skipEscape (117 :: a :: b :: c :: d :: (k ++ 34 :: rest)) =
        .ok (k ++ 34 :: rest) := by
      rw [skipEscape, readQuad_of_hexQuad hn]
      rfl
    simp only [List.cons_append, skipText, hskip, bind, Except.bind, ih fuel (by omega)]
    rfl

theorem exists_of_skipEscape (h : skipEscape o = .ok rest) :
    (∃ b, o = b :: rest ∧ (simpleEscape b).isSome) ∨
      ∃ a b c d n, o = 117 :: a :: b :: c :: d :: rest ∧ hexQuad a b c d = some n := by
  unfold skipEscape at h
  split at h
  · cases h
  · next o =>
    cases hq : readQuad o with
    | error f => simp [hq, Except.map] at h
    | ok r =>
      obtain ⟨n, o'⟩ := r
      simp only [hq, Except.map, Except.ok.injEq] at h
      obtain ⟨a, b, c, d, rfl, hn⟩ := exists_of_readQuad hq
      exact .inr ⟨a, b, c, d, n, by rw [h], hn⟩
  · next b o _ =>
    split at h
    · next hb =>
      cases h
      exact .inl ⟨b, rfl, hb⟩
    · cases h

theorem exists_of_skipText (h : skipText fuel o = .ok rest) :
    ∃ k, o = k ++ 34 :: rest ∧ Skimmed k := by
  induction fuel generalizing o with
  | zero => cases h
  | succ fuel ih =>
    cases o with
    | nil => cases h
    | cons b o =>
      rw [skipText] at h
      split at h
      · next hb =>
        cases h
        exact ⟨[], by rw [hb]; rfl, .nil⟩
      · next hq =>
        split at h
        · next hb =>
          obtain ⟨o', he, h⟩ := exists_of_bind h
          obtain ⟨k, rfl, hk⟩ := ih h
          rcases exists_of_skipEscape he with ⟨c, rfl, hc⟩ | ⟨x, y, z, w, n, rfl, hn⟩
          · exact ⟨92 :: c :: k, by rw [hb]; rfl, .simple hc hk⟩
          · exact ⟨92 :: 117 :: x :: y :: z :: w :: k, by rw [hb]; rfl, .unit hn hk⟩
        · next hs =>
          split at h
          · cases h
          · next hn =>
            obtain ⟨k, rfl, hk⟩ := ih h
            exact ⟨b :: k, rfl, .bare ⟨hq, hs, hn⟩ hk⟩

theorem readText_of_spells (h : Spells k o) (hf : k.length < fuel) :
    readText fuel (k ++ 34 :: rest) = .ok o := by
  obtain ⟨fuel, rfl⟩ := Nat.exists_eq_add_one.2 (Nat.zero_lt_of_lt hf)
  induction h generalizing fuel with
  | nil => rfl
  | @bare b k o hb h ih =>
    rw [List.length_cons] at hf
    obtain ⟨fuel, rfl⟩ := Nat.exists_eq_add_one.2 (Nat.zero_lt_of_lt (Nat.lt_of_succ_lt_succ hf))
    rw [List.cons_append, readText, if_neg hb.1, if_neg hb.2.1, if_neg hb.2.2,
      ih fuel (by omega)]
    rfl
  | @escape e p k o he h ih =>
    rw [List.length_cons, List.length_append] at hf
    obtain ⟨fuel, rfl⟩ := Nat.exists_eq_add_one.2 (Nat.zero_lt_of_lt (Nat.lt_of_succ_lt_succ hf))
    rw [List.cons_append, List.append_assoc, readText]
    simp only [show (92 : UInt8) ≠ 34 by decide, if_false, if_true, readEscape_of_escapes he, bind,
      Except.bind, ih fuel (by omega)]
    rfl

theorem exists_of_readText (h : readText fuel o = .ok p) :
    ∃ k rest, o = k ++ 34 :: rest ∧ Spells k p := by
  induction fuel generalizing o p with
  | zero => cases h
  | succ fuel ih =>
    cases o with
    | nil => cases h
    | cons b o =>
      rw [readText] at h
      split at h
      · next hb =>
        cases h
        exact ⟨[], o, by rw [hb]; rfl, .nil⟩
      · next hq =>
        split at h
        · next hb =>
          obtain ⟨⟨taken, o'⟩, he, h⟩ := exists_of_bind h
          obtain ⟨p', hp', h⟩ := exists_of_bind h
          cases h
          obtain ⟨e, rfl, hescapes⟩ := exists_of_readEscape he
          obtain ⟨k, rest, rfl, hk⟩ := ih hp'
          exact ⟨92 :: (e ++ k), rest, by rw [hb, List.cons_append, List.append_assoc],
            .escape hescapes hk⟩
        · next hs =>
          split at h
          · cases h
          · next hn =>
            obtain ⟨p', hp, rfl⟩ := map_eq_ok.1 h
            obtain ⟨k, rest, rfl, hk⟩ := ih hp
            exact ⟨b :: k, rest, rfl, .bare ⟨hq, hs, hn⟩ hk⟩

/-- The closing quote of a text is found in one way only. -/
theorem Skimmed.unique {k' : Octets} (h : Skimmed k) (h' : Skimmed k')
    (he : k ++ 34 :: rest = k' ++ 34 :: rest') : k = k' := by
  have hskip : skipText (k.length + k'.length + 1) (k ++ 34 :: rest) = .ok rest :=
    skipText_of_skimmed h (by omega)
  have hskip' : skipText (k.length + k'.length + 1) (k' ++ 34 :: rest') = .ok rest' :=
    skipText_of_skimmed h' (by omega)
  rw [he, hskip', Except.ok.injEq] at hskip
  rw [hskip] at he
  exact List.append_cancel_right he

def Told (k : Octets) (r : Except Fault String) : Prop :=
  ∀ s, r = .ok s ↔ Spells k (Octets.ofText s)

theorem told_textOf (h : Skimmed k) (rest : Octets) : Told k (textOf (k ++ 34 :: rest)) := by
  intro s
  rw [textOf]
  constructor
  · intro hr
    obtain ⟨p, hp, hr⟩ := exists_of_bind hr
    obtain ⟨k', rest', he, hk'⟩ := exists_of_readText hp
    obtain rfl := h.unique hk'.skimmed he
    split at hr
    · next t ht =>
      cases hr
      rwa [Octets.ofText_of_text? ht]
    · cases hr
  · intro hs
    have hlt : k.length < (k ++ 34 :: rest).length := by simp
    rw [readText_of_spells hs hlt]
    simp only [bind, Except.bind, Octets.text?_ofText]
    rfl

theorem scanText_of_skimmed (h : Skimmed k) (rest : Octets) :
    ∃ r, scanText (k ++ 34 :: rest) = .ok (r, rest) ∧ Told k r := by
  have hlt : k.length < (k ++ 34 :: rest).length := by simp
  refine ⟨_, ?_, told_textOf h rest⟩
  simp only [scanText, skipText_of_skimmed h hlt]

theorem exists_of_scanText {r : Except Fault String} (h : scanText o = .ok (r, rest)) :
    ∃ k, o = k ++ 34 :: rest ∧ Skimmed k ∧ Told k r := by
  unfold scanText at h
  split at h
  · next o' hs =>
    obtain ⟨rfl, rfl⟩ := Prod.mk.inj (Except.ok.inj h)
    obtain ⟨k, rfl, hk⟩ := exists_of_skipText hs
    exact ⟨k, rfl, hk, told_textOf hk _⟩
  · split at h <;> cases h

end Gatehouse.Json
