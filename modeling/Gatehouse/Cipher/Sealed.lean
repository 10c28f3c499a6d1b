import Gatehouse.Cipher.Keystream

namespace Gatehouse.Cipher

def modulus : Nat := Nat.pow 2 130 - 5

def multiplierBits : Nat := 0x0ffffffc0ffffffc0ffffffc0fffffff

/-- Takes the octets sixteen at a time. Each portion gets a one above its last octet. -/
def accumulate (r : Nat) : Nat → Nat → Octets → Nat
  | 0, acc, _ => acc
  | fuel + 1, acc, o =>
    match o with
    | [] => acc
    | o =>
      let portion := o.take 16
      accumulate r fuel
        ((acc + Octets.toNatLittle portion + Nat.pow 256 portion.length) * r % modulus) (o.drop 16)

def authenticator (key message : Octets) : Octets :=
  let r := Octets.toNatLittle (key.take 16) &&& multiplierBits
  let s := Octets.toNatLittle (key.drop 16)
  Octets.ofNatLittle 16 ((accumulate r message.length 0 message + s) % Nat.pow 2 128)

def filled (o : Octets) : Octets := o ++ List.replicate ((16 - o.length % 16) % 16) 0

def parts (key nonce : Octets) : Octets × Octets :=
  (derivedKey key (nonce.take 16), [0, 0, 0, 0] ++ nonce.drop 16)

/-- The tag of masked octets, to which nothing else is added. -/
def tag (key nonce masked : Octets) : Octets :=
  let (key, nonce) := parts key nonce
  authenticator ((keyBlock key nonce 0).take 32)
    (filled masked ++ Octets.ofNatLittle 8 0 ++ Octets.ofNatLittle 8 masked.length)

def masked (key nonce plain : Octets) : Octets :=
  let (key, nonce) := parts key nonce
  mask key nonce plain

def encrypt (key nonce plain : Octets) : Octets :=
  let hidden := masked key nonce plain
  hidden ++ tag key nonce hidden

def tagLength : Nat := 16

def decrypt (key nonce closed : Octets) : Option Octets :=
  let hidden := closed.take (closed.length - tagLength)
  let given := closed.drop (closed.length - tagLength)
  if given = tag key nonce hidden then some (masked key nonce hidden) else none

end Gatehouse.Cipher
