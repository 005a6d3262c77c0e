/-
Strings of a fixed number of bits, first bit first, and the three
operations that a bit-oriented cipher is made of: picking bits by a table,
turning, and the bitwise exclusive or. A table says for each place of the
result which place of the argument it is taken from, so that two tables
undo each other exactly when their composition is the identity.
-/
import Pkcs12.Bytes

namespace Pkcs12

/-- A string of `n` bits. -/
abbrev Bits (n : Nat) := Vector Bool n

namespace Bits

/-- The bits named by a table, in its order. -/
def select {m n : Nat} (table : Vector (Fin m) n) (x : Bits m) : Bits n :=
  table.map fun i => x[i]

def xor {n : Nat} (x y : Bits n) : Bits n :=
  Vector.zipWith Bool.xor x y

theorem xor_xor_cancel {n : Nat} (x y : Bits n) : xor (xor x y) y = x := by
  ext i h
  simp [xor]

/-- Two tables one of which sends each place back to where the other took
it from undo each other. -/
theorem select_select {n : Nat} {s t : Vector (Fin n) n} (h : ∀ i : Fin n, t[s[i]] = i)
    (x : Bits n) : select s (select t x) = x := by
  ext i hi
  have hs : t[s[i]] = (⟨i, hi⟩ : Fin n) := h ⟨i, hi⟩
  simp only [select, Vector.getElem_map, Fin.getElem_fin] at hs ⊢
  rw [hs]

-- ============================================================ octets

/-- Bit `k` of an octet, the most significant being bit 0. -/
def ofOctet (b : UInt8) (k : Nat) : Bool :=
  b.toNat.testBit (7 - k)

/-- The octet with these bits. -/
def toOctet (bit : Nat → Bool) : UInt8 :=
  (List.range 8).foldl (fun n k => 2 * n + (bit k).toUInt8) 0

/-- The bits of eight octets. Octets beyond the end count as zero. -/
def ofBytes (b : Bytes) : Bits 64 :=
  let octets := b.toArray
  Vector.ofFn fun i => ofOctet (octets.getD (i.val / 8) 0) (i.val % 8)

def toBytes (x : Bits 64) : Bytes :=
  (List.range 8).map fun j => toOctet fun k => x.toArray.getD (8 * j + k) false

theorem length_toBytes (x : Bits 64) : (toBytes x).length = 8 := by
  simp [toBytes]

end Bits

end Pkcs12
