import Gatehouse.Cipher.Sealed

namespace Gatehouse.Cipher

variable {key nonce closed plain o : Octets}

@[simp] theorem length_octets (ws : List UInt32) : (octets ws).length = 4 * ws.length := by
  induction ws with
  | nil => rfl
  | cons w ws ih =>
    have hw := Octets.length_ofNatLittle 4 w.toNat
    rw [octets, List.flatMap_cons, List.length_append, hw, ← octets, ih, List.length_cons]
    omega

@[simp] theorem length_keyBlock (key nonce : Octets) (counter : Nat) :
    (keyBlock key nonce counter).length = 64 := by
  simp [keyBlock]

@[simp] theorem length_keyBlocks (key nonce : Octets) (count counter : Nat) :
    (keyBlocks key nonce count counter).length = 64 * count := by
  induction count generalizing counter with
  | zero => rfl
  | succ count ih =>
    rw [keyBlocks, List.length_append, length_keyBlock, ih]
    omega

theorem length_mask (key nonce o : Octets) : (mask key nonce o).length = o.length := by
  rw [mask, List.length_zipWith, length_keyBlocks]
  omega

theorem zipWith_xor_self {stream : Octets} (h : o.length ≤ stream.length) :
    List.zipWith (· ^^^ ·) (List.zipWith (· ^^^ ·) o stream) stream = o := by
  induction o generalizing stream with
  | nil => simp
  | cons b o ih =>
    cases stream with
    | nil => simp at h
    | cons w stream =>
      have hb : b ^^^ w ^^^ w = b := by
        rw [UInt8.xor_assoc, UInt8.xor_self, UInt8.xor_zero]
      have ho := ih (Nat.le_of_succ_le_succ h)
      simp only [List.zipWith_cons_cons, hb, ho]

/-- The same stream that masks octets uncovers them. -/
theorem mask_mask (key nonce o : Octets) : mask key nonce (mask key nonce o) = o := by
  have hl : o.length ≤ (keyBlocks key nonce (o.length / 64 + 1) 1).length := by
    rw [length_keyBlocks]
    omega
  rw [mask, length_mask, mask]
  exact zipWith_xor_self hl

theorem masked_masked (key nonce o : Octets) : masked key nonce (masked key nonce o) = o :=
  mask_mask _ _ _

@[simp] theorem length_masked (key nonce o : Octets) : (masked key nonce o).length = o.length :=
  length_mask _ _ _

@[simp] theorem length_tag (key nonce o : Octets) : (tag key nonce o).length = tagLength :=
  Octets.length_ofNatLittle 16 _

theorem length_encrypt (key nonce plain : Octets) :
    (encrypt key nonce plain).length = plain.length + tagLength := by
  simp [encrypt]

theorem decrypt_encrypt (key nonce plain : Octets) :
    decrypt key nonce (encrypt key nonce plain) = some plain := by
  have hl : (encrypt key nonce plain).length - tagLength = (masked key nonce plain).length := by
    rw [length_encrypt, length_masked]
    omega
  have htake : (encrypt key nonce plain).take ((encrypt key nonce plain).length - tagLength) =
      masked key nonce plain := by
    rw [hl, encrypt]
    exact List.take_left
  have hdrop : (encrypt key nonce plain).drop ((encrypt key nonce plain).length - tagLength) =
      tag key nonce (masked key nonce plain) := by
    rw [hl, encrypt]
    exact List.drop_left
  rw [decrypt, htake, hdrop, if_pos rfl, masked_masked]

/-- Nothing is opened but what was sealed. -/
theorem decrypt_eq_some : decrypt key nonce closed = some plain ↔
    closed = encrypt key nonce plain := by
  constructor
  · intro h
    rw [decrypt] at h
    split at h
    · next htag =>
      cases h
      rw [encrypt, masked_masked, ← htag]
      exact (List.take_append_drop _ closed).symm
    · cases h
  · rintro rfl
    exact decrypt_encrypt key nonce plain

end Gatehouse.Cipher
