namespace Gatehouse.Url

def punycodeDigit (d : Nat) : Char := Char.ofNat (if d < 26 then 97 + d else 22 + d)

def punycodeValue? (c : Char) : Option Nat :=
  let n := c.toNat
  if 97 ≤ n ∧ n ≤ 122 then some (n - 97)
  else if 65 ≤ n ∧ n ≤ 90 then some (n - 65)
  else if 48 ≤ n ∧ n ≤ 57 then some (n - 22)
  else none

def threshold (bias k : Nat) : Nat := if k ≤ bias then 1 else if bias + 26 ≤ k then 26 else k - bias

def shrink : Nat → Nat → Nat → Nat × Nat
  | 0, delta, k => (delta, k)
  | fuel + 1, delta, k => if 455 < delta then shrink fuel (delta / 35) (k + 36) else (delta, k)

/-- The bias for the next number, after one of this size that was number `count`. -/
def adapt (delta count : Nat) (first : Bool) : Nat :=
  let delta := if first then delta / 700 else delta / 2
  let (delta, k) := shrink delta (delta + delta / count) 0
  k + 36 * delta / (delta + 38)

def writeNumber (bias : Nat) : Nat → Nat → Nat → List Char
  | 0, _, _ => []
  | fuel + 1, k, q =>
    let t := threshold bias k
    if q < t then [punycodeDigit q]
    else punycodeDigit (t + (q - t) % (36 - t)) ::
      writeNumber bias fuel (k + 36) ((q - t) / (36 - t))

/-- How far the writing has come: what is written, the number to be written next, the bias, and how
many characters are dealt with. -/
structure Progress where
  written : List Char
  delta : Nat
  bias : Nat
  count : Nat

def writeOccurrences (basic m : Nat) : List Nat → Progress → Progress
  | [], p => p
  | n :: s, p =>
    if n < m then writeOccurrences basic m s { p with delta := p.delta + 1 }
    else if n = m then
      writeOccurrences basic m s {
        written := p.written ++ writeNumber p.bias (p.delta + 1) 36 p.delta
        delta := 0
        bias := adapt p.delta (p.count + 1) (p.count = basic)
        count := p.count + 1 }
    else writeOccurrences basic m s p

def writeOthers (basic : Nat) (s : List Nat) : Nat → Nat → Progress → Progress
  | 0, _, p => p
  | fuel + 1, n, p =>
    match (s.filter (n ≤ ·)).min? with
    | none => p
    | some m =>
      let q := writeOccurrences basic m s { p with delta := p.delta + (m - n) * (p.count + 1) }
      writeOthers basic s fuel (m + 1) { q with delta := q.delta + 1 }

def toPunycode (s : List Nat) : List Char :=
  let basic := (s.filter (· < 128)).map Char.ofNat
  let p := writeOthers basic.length s s.length 128 ⟨[], 0, 72, basic.length⟩
  (if basic.isEmpty then [] else basic ++ ['-']) ++ p.written

def readNumber (bias : Nat) : Nat → Nat → Nat → List Char → Option (Nat × List Char)
  | _, _, _, [] => none
  | k, weight, i, c :: s => do
    let d ← punycodeValue? c
    let t := threshold bias k
    if d < t then some (i + d * weight, s)
    else readNumber bias (k + 36) (weight * (36 - t)) (i + d * weight) s

def readOthers : Nat → Nat → Nat → Nat → List Nat → List Char → Option (List Nat)
  | _, _, _, _, done, [] => some done
  | 0, _, _, _, _, _ :: _ => none
  | fuel + 1, n, i, bias, done, s => do
    let (j, s) ← readNumber bias 36 1 i s
    let count := done.length + 1
    let m := n + j / count
    let place := j % count
    if m < 0x110000 ∧ ¬ (0xD800 ≤ m ∧ m ≤ 0xDFFF) then
      readOthers fuel m (place + 1) (adapt (j - i) count (i = 0))
        (done.take place ++ m :: done.drop place) s
    else none

def splitLast (s : List Char) : List Char × List Char :=
  let behind := (s.reverse.takeWhile (· != '-')).reverse
  (s.take (s.length - behind.length - 1), behind)

/-- The code points of which this is the written form. -/
def ofPunycode? (s : List Char) : Option (List Nat) :=
  let (front, behind) := splitLast s
  if front.all fun c ↦ c.toNat < 128 then
    readOthers behind.length 128 0 72 (front.map Char.toNat) behind
  else none

end Gatehouse.Url
