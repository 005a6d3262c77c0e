/-
Octet strings and the few operations that every later layer shares:
big-endian numbers of a fixed width, division into equal pieces, and the
octetwise exclusive or. Octet strings are lists, so that a statement about
them can follow their structure; nothing in the library needs random
access to a long one.

# Powers

`256 ^ v` and every other `n ^ k` of the library is the power of the core
library. A proof that imports algebra sees a second one, the power of a
monoid, which is preferred unless the first is put in front of it; then
the program and what is proved about it would be written with different
powers. The attribute below puts it in front, so a module that writes a
power has this one among its imports.
-/

attribute [instance (high), default_instance (high + 1)] instPowNat

namespace Pkcs12

/-- A string of octets, first octet first. -/
abbrev Bytes := List UInt8

namespace Bytes

-- ================================================= big-endian numbers

/-- The number an octet string denotes, most significant octet first. -/
def toNat (b : Bytes) : Nat :=
  b.foldl (fun n x => 256 * n + x.toNat) 0

/-- The `v` lowest octets of `n`, least significant first. -/
def littleEndian : Nat → Nat → Bytes
  | 0, _ => []
  | v + 1, n => UInt8.ofNat n :: littleEndian v (n / 256)

/-- The `v` lowest octets of `n`, most significant first: what does not
fit in `v` octets is cut off at the front, which is reduction modulo
`256 ^ v`. -/
def ofNat (v n : Nat) : Bytes :=
  (littleEndian v n).reverse

theorem length_littleEndian (v n : Nat) : (littleEndian v n).length = v := by
  induction v generalizing n with
  | zero => rfl
  | succ v ih => simp [littleEndian, ih]

@[simp] theorem length_ofNat (v n : Nat) : (ofNat v n).length = v := by
  simp [ofNat, length_littleEndian]

/-- Adds two numbers given by their octets, least significant first. The
octets of the sum come out most significant first, in front of `acc`, and
what is carried at the end is dropped. -/
def addOctets (carry : Nat) (acc : Bytes) : Bytes → Bytes → Bytes
  | x :: xs, y :: ys =>
    let sum := x.toNat + y.toNat + carry
    addOctets (sum / 256) (UInt8.ofNat sum :: acc) xs ys
  | _, _ => acc

/-- The sum of two numbers and one, as long as the shorter of their octet
strings: what does not fit is cut off at the front. -/
def addSucc (a b : Bytes) : Bytes :=
  addOctets 1 [] a.reverse b.reverse

-- ======================================================= equal pieces

/-- Consecutive pieces of `n` elements, the last one shorter when `n`
does not divide the length. Pieces of no elements make no progress, so
`n = 0` yields none. -/
def chunks {α : Type} (n : Nat) (xs : List α) : List (List α) :=
  if _stop : n = 0 ∨ xs = [] then [] else xs.take n :: chunks n (xs.drop n)
termination_by xs.length
decreasing_by
  have : xs.length ≠ 0 := fun e => _stop (Or.inr (List.eq_nil_of_length_eq_zero e))
  simp only [List.length_drop]
  omega

theorem chunks_nil {α : Type} (n : Nat) : chunks n ([] : List α) = [] := by
  unfold chunks
  simp

/-- A nonempty list gives its first `n` elements, then the pieces of the
rest. -/
theorem chunks_of_ne_nil {α : Type} {n : Nat} {xs : List α} (hn : n ≠ 0)
    (hx : xs ≠ []) : chunks n xs = xs.take n :: chunks n (xs.drop n) := by
  rw [chunks]
  simp [hn, hx]

-- ==================================================== exclusive or

/-- The octetwise exclusive or of two strings, as long as the shorter. -/
def xor (a b : Bytes) : Bytes :=
  List.zipWith (· ^^^ ·) a b

theorem length_xor {a b : Bytes} (h : a.length = b.length) :
    (xor a b).length = a.length := by
  simp [xor, h]

end Bytes

end Pkcs12
