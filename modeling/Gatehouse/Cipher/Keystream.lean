import Gatehouse.Octets

namespace Gatehouse.Cipher

abbrev Block := Vector UInt32 16

def rotateLeft (w : UInt32) (n : UInt32) : UInt32 := (w <<< n) ||| (w >>> (32 - n))

def quarter (a b c d : Fin 16) (s : Block) : Block :=
  let s := s.set a (s[a] + s[b])
  let s := s.set d (rotateLeft (s[d] ^^^ s[a]) 16)
  let s := s.set c (s[c] + s[d])
  let s := s.set b (rotateLeft (s[b] ^^^ s[c]) 12)
  let s := s.set a (s[a] + s[b])
  let s := s.set d (rotateLeft (s[d] ^^^ s[a]) 8)
  let s := s.set c (s[c] + s[d])
  s.set b (rotateLeft (s[b] ^^^ s[c]) 7)

def doubleRound (s : Block) : Block :=
  let s := quarter 0 4 8 12 s
  let s := quarter 1 5 9 13 s
  let s := quarter 2 6 10 14 s
  let s := quarter 3 7 11 15 s
  let s := quarter 0 5 10 15 s
  let s := quarter 1 6 11 12 s
  let s := quarter 2 7 8 13 s
  quarter 3 4 9 14 s

def rounds : Nat → Block → Block
  | 0, s => s
  | n + 1, s => rounds n (doubleRound s)

def words : Octets → List UInt32
  | a :: b :: c :: d :: o => UInt32.ofNat (Octets.toNatLittle [a, b, c, d]) :: words o
  | _ => []

def octets (ws : List UInt32) : Octets := ws.flatMap fun w ↦ Octets.ofNatLittle 4 w.toNat

def constants : List UInt32 := [0x61707865, 0x3320646e, 0x79622d32, 0x6b206574]

def blockOf (ws : List UInt32) : Block := Vector.ofFn fun i ↦ ws.getD i 0

/-- The octets of the block with the given number, for a key of 32 octets and a nonce of 12. -/
def keyBlock (key nonce : Octets) (counter : Nat) : Octets :=
  let start := blockOf (constants ++ words key ++ UInt32.ofNat counter :: words nonce)
  let mixed := rounds 10 start
  octets (List.ofFn fun i : Fin 16 ↦ mixed[i] + start[i])

/-- The key that a key of 32 octets and 16 octets of a nonce give. -/
def derivedKey (key nonce : Octets) : Octets :=
  let mixed := (rounds 10 (blockOf (constants ++ words key ++ words nonce))).toList
  octets (mixed.take 4 ++ mixed.drop 12)

def keyBlocks (key nonce : Octets) : Nat → Nat → Octets
  | 0, _ => []
  | count + 1, counter => keyBlock key nonce counter ++ keyBlocks key nonce count (counter + 1)

/-- Combines octets with the stream, from its block number one on. -/
def mask (key nonce : Octets) (o : Octets) : Octets :=
  List.zipWith (· ^^^ ·) o (keyBlocks key nonce (o.length / 64 + 1) 1)

end Gatehouse.Cipher
