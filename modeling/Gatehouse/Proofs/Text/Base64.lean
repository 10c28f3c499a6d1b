import Gatehouse.Base64
import Gatehouse.Proofs.Except
import Gatehouse.Proofs.Text.Utf8

namespace Gatehouse.Base64

open Octets (ofChars ofChars_of_ascii)

variable {a : Alphabet} {j i n p q r s : Nat} {vs : List Nat} {x y z : UInt8} {o rest : Octets}
  {t : Tail}

theorem symbol_lt (a : Alphabet) (h : n < 64) : (symbol a n).toNat < 128 := by
  have all : ∀ a, ∀ n : Fin 64, (symbol a n).toNat < 128 := by
    intro a
    cases a <;> decide
  exact all a ⟨n, h⟩

theorem symbol_ne_pad (a : Alphabet) (h : n < 64) : symbol a n ≠ pad := by
  have all : ∀ a, ∀ n : Fin 64, symbol a n ≠ pad := by
    intro a
    cases a <;> decide
  exact all a ⟨n, h⟩

@[simp] theorem valueAt_symbol (a : Alphabet) (place : Nat) (h : n < 64) :
    valueAt a place (symbol a n) = .ok n := by
  rw [valueAt, value?_symbol a h]

theorem value?_eq_some {b : UInt8} (h : value? a b = some n) : n < 64 ∧ b = symbol a n := by
  have all : ∀ a, ∀ k : Fin 256, ∀ n ∈ value? a (UInt8.ofNat k),
      n < 64 ∧ UInt8.ofNat k = symbol a n := by
    intro a
    cases a <;> decide +kernel
  have hb := all a ⟨b.toNat, b.toNat_lt⟩
  rw [UInt8.ofNat_toNat] at hb
  exact hb n h

theorem toNat_ofNat_octet (h : n < 256) : (UInt8.ofNat n).toNat = n := by
  rw [UInt8.toNat_ofNat']
  omega

theorem symbols_one (hp : p < 64) (hq : q < 64) (h : q % 16 = 0) :
    symbols a [UInt8.ofNat (p * 4 + q / 16)] = symbol a p :: symbol a q ::
      match a with | .standard => [pad, pad] | .urlSafe => [] := by
  have hn : (UInt8.ofNat (p * 4 + q / 16)).toNat = p * 4 + q / 16 := toNat_ofNat_octet (by omega)
  have h₁ : (p * 4 + q / 16) / 4 = p := by omega
  have h₂ : (p * 4 + q / 16) % 4 * 16 = q := by omega
  cases a <;> simp only [symbols, hn, h₁, h₂]

theorem symbols_two (hp : p < 64) (hq : q < 64) (hr : r < 64) (h : r % 4 = 0) :
    symbols a [UInt8.ofNat (p * 4 + q / 16), UInt8.ofNat (q % 16 * 16 + r / 4)] =
      symbol a p :: symbol a q :: symbol a r ::
        match a with | .standard => [pad] | .urlSafe => [] := by
  have hx : (UInt8.ofNat (p * 4 + q / 16)).toNat = p * 4 + q / 16 := toNat_ofNat_octet (by omega)
  have hy : (UInt8.ofNat (q % 16 * 16 + r / 4)).toNat = q % 16 * 16 + r / 4 :=
    toNat_ofNat_octet (by omega)
  obtain ⟨n, hn⟩ : ∃ n, n = 256 * (p * 4 + q / 16) + (q % 16 * 16 + r / 4) := ⟨_, rfl⟩
  have h₁ : n / 1024 = p := by omega
  have h₂ : n / 16 % 64 = q := by omega
  have h₃ : n % 16 * 4 = r := by omega
  cases a <;> simp only [symbols, hx, hy, ← hn, h₁, h₂, h₃]

theorem symbols_three (hp : p < 64) (hq : q < 64) (hr : r < 64) (hv : v < 64) (rest : Octets) :
    symbols a (UInt8.ofNat (p * 4 + q / 16) :: UInt8.ofNat (q % 16 * 16 + r / 4) ::
      UInt8.ofNat (r % 4 * 64 + v) :: rest) =
      symbol a p :: symbol a q :: symbol a r :: symbol a v :: symbols a rest := by
  have hx : (UInt8.ofNat (p * 4 + q / 16)).toNat = p * 4 + q / 16 := toNat_ofNat_octet (by omega)
  have hy : (UInt8.ofNat (q % 16 * 16 + r / 4)).toNat = q % 16 * 16 + r / 4 :=
    toNat_ofNat_octet (by omega)
  have hz : (UInt8.ofNat (r % 4 * 64 + v)).toNat = r % 4 * 64 + v := toNat_ofNat_octet (by omega)
  obtain ⟨n, hn⟩ : ∃ n, n = 65536 * (p * 4 + q / 16) + 256 * (q % 16 * 16 + r / 4) +
    (r % 4 * 64 + v) := ⟨_, rfl⟩
  have h₁ : n / 262144 = p := by omega
  have h₂ : n / 4096 % 64 = q := by omega
  have h₃ : n / 64 % 64 = r := by omega
  have h₄ : n % 64 = v := by omega
  rw [symbols, hx, hy, hz, ← hn]
  simp only [h₁, h₂, h₃, h₄]

theorem ofNat_of_eq (h : n = x.toNat) : UInt8.ofNat n = x := by
  rw [h, UInt8.ofNat_toNat]

def packed : List Nat → Octets
  | p :: q :: r :: s :: rest =>
    UInt8.ofNat (p * 4 + q / 16) :: UInt8.ofNat (q % 16 * 16 + r / 4) ::
      UInt8.ofNat (r % 4 * 64 + s) :: packed rest
  | [p, q, r] => [UInt8.ofNat (p * 4 + q / 16), UInt8.ofNat (q % 16 * 16 + r / 4)]
  | [p, q] => [UInt8.ofNat (p * 4 + q / 16)]
  | [_] => []
  | [] => []

/-- Whether the bits that fill no octet are fewer than six, and all zero. -/
def IsTight : List Nat → Prop
  | _ :: _ :: _ :: _ :: rest => IsTight rest
  | [_, _, r] => r % 4 = 0
  | [_, q] => q % 16 = 0
  | [_] => False
  | [] => True

/-- The groups of six bits that octets are cut into. -/
structure Groups (o : Octets) (vs : List Nat) : Prop where
  lt : ∀ v ∈ vs, v < 64
  tight : IsTight vs
  fill : packed vs = o

theorem exists_groups (o : Octets) : ∃ vs, Groups o vs := by
  induction o using symbols.induct with
  | case1 x y z rest ih =>
    have hx := x.toNat_lt
    have hy := y.toNat_lt
    have hz := z.toNat_lt
    obtain ⟨vs, hvs, ht, hrest⟩ := ih
    obtain ⟨n, hn⟩ : ∃ n, n = 65536 * x.toNat + 256 * y.toNat + z.toNat := ⟨_, rfl⟩
    have h₁ : UInt8.ofNat (n / 262144 * 4 + n / 4096 % 64 / 16) = x := ofNat_of_eq (by omega)
    have h₂ : UInt8.ofNat (n / 4096 % 64 % 16 * 16 + n / 64 % 64 / 4) = y := ofNat_of_eq (by omega)
    have h₃ : UInt8.ofNat (n / 64 % 64 % 4 * 64 + n % 64) = z := ofNat_of_eq (by omega)
    refine ⟨n / 262144 :: n / 4096 % 64 :: n / 64 % 64 :: n % 64 :: vs, ?_, ht, ?_⟩
    · simp only [List.mem_cons, forall_eq_or_imp]
      exact ⟨by omega, by omega, by omega, by omega, hvs⟩
    · rw [packed, h₁, h₂, h₃, hrest]
  | case2 x y =>
    have hx := x.toNat_lt
    have hy := y.toNat_lt
    obtain ⟨n, hn⟩ : ∃ n, n = 256 * x.toNat + y.toNat := ⟨_, rfl⟩
    have h₁ : UInt8.ofNat (n / 1024 * 4 + n / 16 % 64 / 16) = x := ofNat_of_eq (by omega)
    have h₂ : UInt8.ofNat (n / 16 % 64 % 16 * 16 + n % 16 * 4 / 4) = y := ofNat_of_eq (by omega)
    refine ⟨[n / 1024, n / 16 % 64, n % 16 * 4], ?_, Nat.mul_mod_left _ _, ?_⟩
    · simp only [List.mem_cons, forall_eq_or_imp]
      exact ⟨by omega, by omega, by omega, nofun⟩
    · rw [packed, h₁, h₂]
  | case3 x =>
    have hx := x.toNat_lt
    have h₁ : UInt8.ofNat (x.toNat / 4 * 4 + x.toNat % 4 * 16 / 16) = x := ofNat_of_eq (by omega)
    refine ⟨[x.toNat / 4, x.toNat % 4 * 16], ?_, Nat.mul_mod_left _ _, ?_⟩
    · simp only [List.mem_cons, forall_eq_or_imp]
      exact ⟨by omega, by omega, nofun⟩
    · rw [packed, h₁]
  | case4 => exact ⟨[], nofun, trivial, rfl⟩

theorem symbols_of_groups (h : Groups o vs) :
    ∃ n, symbols a o = vs.map (symbol a) ++ List.replicate n pad ∧ (a = .urlSafe → n = 0) := by
  obtain ⟨hv, ht, rfl⟩ := h
  induction vs using packed.induct with
  | case1 p q r s rest ih =>
    simp only [List.mem_cons, forall_eq_or_imp] at hv
    obtain ⟨hp, hq, hr, hs, hrest⟩ := hv
    obtain ⟨n, hsymbols, hn⟩ := ih hrest ht
    refine ⟨n, ?_, hn⟩
    rw [packed, symbols_three hp hq hr hs, hsymbols]
    simp
  | case2 p q r =>
    simp only [List.mem_cons, forall_eq_or_imp] at hv
    obtain ⟨hp, hq, hr, -⟩ := hv
    rw [packed, symbols_two hp hq hr ht]
    cases a with
    | standard => exact ⟨1, rfl, nofun⟩
    | urlSafe => exact ⟨0, rfl, fun _ ↦ rfl⟩
  | case3 p q =>
    simp only [List.mem_cons, forall_eq_or_imp] at hv
    obtain ⟨hp, hq, -⟩ := hv
    rw [packed, symbols_one hp hq ht]
    cases a with
    | standard => exact ⟨2, rfl, nofun⟩
    | urlSafe => exact ⟨0, rfl, fun _ ↦ rfl⟩
  | case4 p => cases ht
  | case5 => exact ⟨0, rfl, fun _ ↦ rfl⟩

theorem mem_symbols {b : UInt8} (hb : b ∈ symbols a o) :
    (∃ n < 64, b = symbol a n) ∨ a = .standard ∧ b = pad := by
  obtain ⟨vs, h⟩ := exists_groups o
  obtain ⟨n, hs, hn⟩ := symbols_of_groups (a := a) h
  rw [hs, List.mem_append] at hb
  rcases hb with hb | hb
  · obtain ⟨v, hmem, rfl⟩ := List.mem_map.1 hb
    exact .inl ⟨v, h.lt v hmem, rfl⟩
  · obtain ⟨hne, rfl⟩ := List.mem_replicate.1 hb
    cases a with
    | standard => exact .inr ⟨rfl, rfl⟩
    | urlSafe => exact absurd (hn rfl) hne

theorem lt_of_mem_symbols {b : UInt8} (hb : b ∈ symbols a o) : b.toNat < 128 := by
  rcases mem_symbols hb with ⟨n, hn, rfl⟩ | ⟨-, rfl⟩
  · exact symbol_lt a hn
  · decide

theorem toNat_ofNat_of_lt (h : n < 128) : (Char.ofNat n).toNat = n := by
  have all : ∀ n : Fin 128, (Char.ofNat n).toNat = n := by decide
  exact all ⟨n, h⟩

theorem ofText_encode (a : Alphabet) (o : Octets) : Octets.ofText (encode a o) = symbols a o := by
  have ascii : ∀ c ∈ (symbols a o).map fun b ↦ Char.ofNat b.toNat, c.toNat < 128 := by
    intro c hc
    obtain ⟨b, hb, rfl⟩ := List.mem_map.1 hc
    rw [toNat_ofNat_of_lt (lt_of_mem_symbols hb)]
    exact lt_of_mem_symbols hb
  have back : ∀ b ∈ symbols a o, UInt8.ofNat (Char.ofNat b.toNat).toNat = b := by
    intro b hb
    rw [toNat_ofNat_of_lt (lt_of_mem_symbols hb), UInt8.ofNat_toNat]
  rw [encode, Octets.ofText_ofList, ofChars_of_ascii ascii, List.map_map]
  exact (List.map_congr_left back).trans (List.map_id _)

theorem readTail_symbol (h : n < 64) (ht : t.pads = 0) :
    readTail a j i t (symbol a n :: rest) =
      readTail a j (i + 1) { t with values := t.values ++ [n], last := symbol a n } rest := by
  simp [readTail, symbol_ne_pad a h, ht, valueAt_symbol a _ h, bind, Except.bind]

theorem decodeTail_one (hx : p < 64) (hy : q < 64) (h : q % 16 = 0) (rest : Octets)
    (hr : rest = match a with | .standard => [pad, pad] | .urlSafe => []) :
    decodeTail a j (symbol a p :: symbol a q :: rest) = .ok [UInt8.ofNat (p * 4 + q / 16)] := by
  rw [decodeTail, readTail_symbol hx rfl, readTail_symbol hy rfl, hr]
  cases a <;> simp [readTail, padded, h, bind, Except.bind, pure, Except.pure]

theorem decodeTail_two (hp : p < 64) (hq : q < 64) (hr : r < 64) (h : r % 4 = 0) (rest : Octets)
    (he : rest = match a with | .standard => [pad] | .urlSafe => []) :
    decodeTail a j (symbol a p :: symbol a q :: symbol a r :: rest) =
      .ok [UInt8.ofNat (p * 4 + q / 16), UInt8.ofNat (q % 16 * 16 + r / 4)] := by
  rw [decodeTail, readTail_symbol hp rfl, readTail_symbol hq rfl, readTail_symbol hr rfl, he]
  cases a <;> simp [readTail, padded, h, bind, Except.bind, pure, Except.pure]

theorem decodeTail_three (hp : p < 64) (hq : q < 64) (hr : r < 64) (hs : s < 64) :
    decodeTail a j [symbol a p, symbol a q, symbol a r, symbol a s] =
      .ok [UInt8.ofNat (p * 4 + q / 16), UInt8.ofNat (q % 16 * 16 + r / 4),
        UInt8.ofNat (r % 4 * 64 + s)] := by
  rw [decodeTail, readTail_symbol hp rfl, readTail_symbol hq rfl, readTail_symbol hr rfl,
    readTail_symbol hs rfl]
  cases a <;> simp [readTail, padded, bind, Except.bind, pure, Except.pure]

theorem decodeFrom_symbols (a : Alphabet) (j : Nat) (o : Octets) :
    decodeFrom a j (symbols a o) = .ok o := by
  obtain ⟨vs, hv, ht, rfl⟩ := exists_groups o
  induction vs using packed.induct generalizing j with
  | case1 p q r s rest ih =>
    simp only [List.mem_cons, forall_eq_or_imp] at hv
    obtain ⟨hp, hq, hr, hs, hrest⟩ := hv
    have ih (j : Nat) := ih j hrest ht
    rw [packed, symbols_three hp hq hr hs]
    cases he : symbols a (packed rest) with
    | nil =>
      -- the last group is whole
      have hnil : decodeFrom a 0 [] = .ok [] := by cases a <;> rfl
      have hlast := ih 0
      rw [he, hnil, Except.ok.injEq] at hlast
      rw [decodeFrom.eq_2, decodeTail_three hp hq hr hs, ← hlast]
      simp
    | cons e more =>
      have := ih (j + 4)
      rw [he] at this
      simp only [decodeFrom, valueAt_symbol a _ hp, valueAt_symbol a _ hq, valueAt_symbol a _ hr,
        valueAt_symbol a _ hs, this, bind, Except.bind, pure, Except.pure]
  | case2 p q r =>
    simp only [List.mem_cons, forall_eq_or_imp] at hv
    obtain ⟨hp, hq, hr, -⟩ := hv
    rw [packed, symbols_two hp hq hr ht]
    have htail := decodeTail_two (a := a) (j := j) hp hq hr ht _ rfl
    cases a <;> exact htail
  | case3 p q =>
    simp only [List.mem_cons, forall_eq_or_imp] at hv
    obtain ⟨hp, hq, -⟩ := hv
    rw [packed, symbols_one hp hq ht]
    have htail := decodeTail_one (a := a) (j := j) hp hq ht _ rfl
    cases a <;> exact htail
  | case4 p => cases ht
  | case5 => cases a <;> rfl

theorem length_symbols_mod (a : Alphabet) (o : Octets) : (symbols a o).length % 4 ≠ 1 := by
  induction o using symbols.induct with
  | case1 x y z rest ih =>
    simp only [symbols, List.length_cons]
    omega
  | case2 x y => cases a <;> simp [symbols]
  | case3 x => cases a <;> simp [symbols]
  | case4 => simp [symbols]

theorem decode_encode (a : Alphabet) (o : Octets) : decode a (encode a o) = .ok o := by
  rw [decode, ofText_encode, decodeSymbols]
  cases h : (symbols a o).getLast? with
  | none =>
    rw [List.getLast?_eq_none_iff] at h
    have := decodeFrom_symbols a 0 o
    rw [h] at this
    cases a <;> exact this
  | some b =>
    have hm : ¬((symbols a o).length % 4 = 1 ∧ b ≠ pad ∧ value? a b = none) :=
      fun hb ↦ length_symbols_mod a o hb.1
    simp only [hm, if_false, decodeFrom_symbols]

theorem encode_injective (a : Alphabet) {o o' : Octets} (h : encode a o = encode a o') : o = o' :=
  Except.ok.inj <| by rw [← decode_encode a o, ← decode_encode a o', h]

section Canonicity

variable {place v : Nat} {b : UInt8} {u : Octets} {t' : Tail}

theorem valueAt_eq_ok (h : valueAt a place b = .ok n) : n < 64 ∧ b = symbol a n := by
  cases hv : value? a b with
  | none =>
    rw [valueAt, hv] at h
    cases h
  | some m =>
    rw [valueAt, hv] at h
    cases h
    exact value?_eq_some hv

/-- Octets that take a tail to another one: symbols, and padding signs behind them. There are no
symbols after a padding sign. -/
structure Extends (a : Alphabet) (t t' : Tail) (u : Octets) (vs : List Nat) (n : Nat) : Prop where
  octets : u = vs.map (symbol a) ++ List.replicate n pad
  bounded : ∀ v ∈ vs, v < 64
  values : t'.values = t.values ++ vs
  pads : t'.pads = t.pads + n
  closed : 0 < t.pads → vs = []

theorem Extends.pad {vs : List Nat} {k : Nat} (h : Extends a t t' u vs k) {t₀ : Tail}
    (hv : t.values = t₀.values) (hp : t.pads = t₀.pads + 1) :
    Extends a t₀ t' (pad :: u) [] (k + 1) := by
  obtain ⟨hu, -, hvals, hpads, hclosed⟩ := h
  obtain rfl := hclosed (by omega)
  exact ⟨congrArg (List.cons _) hu, by simp, by rw [hvals, hv], by omega, fun _ ↦ rfl⟩

theorem Extends.symbol {vs : List Nat} {k : Nat} {last : UInt8} (hn : n < 64) (hp : ¬0 < t.pads)
    (h : Extends a { t with values := t.values ++ [n], last } t' u vs k) :
    Extends a t t' (symbol a n :: u) (n :: vs) k := by
  obtain ⟨hu, hlt, hvals, hpads, -⟩ := h
  refine ⟨congrArg (List.cons _) hu, ?_, by simp [hvals], hpads, fun h ↦ absurd h hp⟩
  intro v hv
  rcases List.mem_cons.1 hv with rfl | hv
  · exact hn
  · exact hlt v hv

theorem extends_of_readTail (h : readTail a j i t u = .ok t') : ∃ vs n, Extends a t t' u vs n := by
  induction u generalizing i t with
  | nil =>
    cases h
    exact ⟨[], 0, rfl, by simp, by simp, rfl, fun _ ↦ rfl⟩
  | cons b u ih =>
    rw [readTail] at h
    by_cases hb : b = pad
    · rw [if_pos hb] at h
      subst hb
      by_cases hi : i < 2
      · rw [if_pos hi] at h
        cases h
      · rw [if_neg hi] at h
        split at h
        · next hp =>
          obtain ⟨vs, n, hrest⟩ := ih h
          exact ⟨[], n + 1, hrest.pad rfl (by simp [hp])⟩
        · obtain ⟨vs, n, hrest⟩ := ih h
          exact ⟨[], n + 1, hrest.pad rfl rfl⟩
    · rw [if_neg hb] at h
      by_cases hp : 0 < t.pads
      · rw [if_pos hp] at h
        cases h
      · rw [if_neg hp] at h
        obtain ⟨v, hv, h⟩ := exists_of_bind h
        obtain ⟨hlt, rfl⟩ := valueAt_eq_ok hv
        obtain ⟨vs, n, hrest⟩ := ih h
        exact ⟨v :: vs, n, hrest.symbol hlt hp⟩

theorem pads_of_padded (hp : padded a t) (hl : t.values.length + t.pads ≤ 4)
    (hv : 2 ≤ t.values.length) : t.pads = if a = .standard then 4 - t.values.length else 0 := by
  cases a with
  | standard =>
    simp only [padded, decide_eq_true_eq] at hp
    rw [if_pos rfl]
    omega
  | urlSafe => simpa [padded] using hp

/-- The last group is read only if it is what its octets are written as. -/
theorem of_decodeTail (h : decodeTail a j u = .ok o) (hl : u.length ≤ 4) : u = symbols a o := by
  obtain ⟨t, ht, h⟩ := exists_of_bind h
  obtain ⟨vs, n, hs, hlt, hvals, hpads, -⟩ := extends_of_readTail ht
  replace hvals : t.values = vs := by simpa using hvals
  replace hpads : t.pads = n := by simpa using hpads
  have hsum : vs.length + n ≤ 4 := by simpa [hs] using hl
  have hempty : u.isEmpty = (vs.isEmpty && n == 0) := by
    rw [hs]
    cases vs <;> cases n <;> rfl
  have hpad := pads_of_padded (a := a) (t := t)
  rw [hvals, hpads] at hpad
  rw [hvals, hempty] at h
  cases hp : padded a t with
  | false =>
    rw [hp] at h
    cases hshort : (vs.length < 2 && !(vs.isEmpty && n == 0) : Bool) <;> rw [hshort] at h <;>
      cases h
  | true =>
    -- as many symbols as are read, and as much padding as they need: the shape of the group
    replace hpad := hpad hp hsum
    rw [hp] at h
    match vs, hlt with
    | [], _ => cases n with
      | zero =>
        cases h
        rw [hs]
        rfl
      | succ n => cases h
    | [p], _ => cases h
    | [p, q], hlt =>
      have hp := hlt p (by simp)
      have hq := hlt q (by simp)
      change (if q % 16 = 0 then _ else _) = _ at h
      by_cases hspill : q % 16 = 0
      · rw [if_pos hspill] at h
        cases h
        rw [symbols_one hp hq hspill, hs, hpad (Nat.le_refl 2)]
        cases a <;> rfl
      · rw [if_neg hspill] at h
        cases h
    | [p, q, r], hlt =>
      have hp := hlt p (by simp)
      have hq := hlt q (by simp)
      have hr := hlt r (by simp)
      change (if r % 4 = 0 then _ else _) = _ at h
      by_cases hspill : r % 4 = 0
      · rw [if_pos hspill] at h
        cases h
        rw [symbols_two hp hq hr hspill, hs, hpad (by simp)]
        cases a <;> rfl
      · rw [if_neg hspill] at h
        cases h
    | [p, q, r, v], hlt =>
      have hp := hlt p (by simp)
      have hq := hlt q (by simp)
      have hr := hlt r (by simp)
      have hv := hlt v (by simp)
      cases h
      rw [symbols_three hp hq hr hv, hs, hpad (by simp)]
      cases a <;> rfl
    | _ :: _ :: _ :: _ :: _ :: _, _ =>
      simp at hsum
      omega

theorem of_decodeFrom (h : decodeFrom a j u = .ok o) : u = symbols a o := by
  induction j, u using decodeFrom.induct generalizing o with
  | case1 j w x y z e rest ih =>
    rw [decodeFrom] at h
    obtain ⟨p, hp, h⟩ := exists_of_bind h
    obtain ⟨q, hq, h⟩ := exists_of_bind h
    obtain ⟨r, hr, h⟩ := exists_of_bind h
    obtain ⟨v, hv, h⟩ := exists_of_bind h
    obtain ⟨o', ho, h⟩ := exists_of_bind h
    cases h
    obtain ⟨hp', rfl⟩ := valueAt_eq_ok hp
    obtain ⟨hq', rfl⟩ := valueAt_eq_ok hq
    obtain ⟨hr', rfl⟩ := valueAt_eq_ok hr
    obtain ⟨hv', rfl⟩ := valueAt_eq_ok hv
    rw [symbols_three hp' hq' hr' hv', ih ho]
  | case2 j u hs =>
    have hl : u.length ≤ 4 := by
      match u with
      | [] | [_] | [_, _] | [_, _, _] | [_, _, _, _] => simp
      | w :: x :: y :: z :: e :: rest => exact absurd rfl (hs w x y z e rest)
    rw [decodeFrom.eq_2 a j u hs] at h
    exact of_decodeTail h hl

theorem decode_eq_ok {text : String} : decode a text = .ok o ↔ text = encode a o := by
  constructor
  · intro h
    apply Octets.ofText_injective
    rw [ofText_encode]
    rw [decode, decodeSymbols] at h
    split at h
    · split at h
      · cases h
      · exact of_decodeFrom h
    · next hl =>
      cases h
      rw [List.getLast?_eq_none_iff.1 hl]
      rfl
  · rintro rfl
    exact decode_encode a o

end Canonicity

end Gatehouse.Base64
