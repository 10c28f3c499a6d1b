import Gatehouse.Octets

namespace Gatehouse

structure OctetSource where
  octet : Nat → UInt8
  given : Nat := 0

structure Entropy where
  source : OctetSource := ⟨fun _ ↦ 0, 0⟩
  failing : Bool := false

namespace OctetSource

def next (state : UInt64) : UInt64 := state * 6364136223846793005 + 1442695040888963407

/-- The source that starts from a number of 64 bits, of which each step gives the highest eight. -/
def seeded (seed : UInt64) : OctetSource :=
  ⟨fun i ↦ (Nat.repeat next (i + 1) seed >>> 56).toUInt8, 0⟩

instance : Coe UInt64 OctetSource := ⟨seeded⟩

def take (n : Nat) (s : OctetSource) : Octets :=
  (List.range n).map fun i ↦ s.octet (s.given + i)

theorem length_take (n : Nat) (s : OctetSource) : (s.take n).length = n := by simp [take]

end OctetSource

namespace Entropy

def draw (n : Nat) (e : Entropy) : Option Octets × Entropy :=
  if e.failing then (none, e)
  else (some (e.source.take n), { e with source.given := e.source.given + n })

theorem length_of_draw {n : Nat} {e : Entropy} {o : Octets} (h : (e.draw n).1 = some o) :
    o.length = n := by
  unfold draw at h
  split at h
  · simp at h
  · simp only [Option.some.injEq] at h
    exact h ▸ OctetSource.length_take n e.source

end Entropy

end Gatehouse
