/-
Integers and octet strings are read as they were written.

# The sign

The sign bit is what makes an integer a case of its own. `writeNat` spends an
octet more when the topmost bit of the number would stand where the sign
does, that is, it writes `n` in as many octets as have room for `2 * n`
(`exists_writeNat`). With the sign bit clear the number is read as it
stands.

For the negative integers the two's complement is built from that: the
complement of what is written for `n` stands for `-(n + 1)`, because a number
and its complement add up to the largest number of their length
(`toNat_complement`). The complement of a clear sign bit is a set one, so
`writeInt` writes the integers of either sign and `readInt_writeInt` reads
them back. Only counts are ever written, and these are natural numbers; the
negative ones are here because an encoded count may be anything, and what is
refused has to be stated as well.

# Octet strings

An octet string that is not open is its contents. One that was put together
from pieces is never written.
-/
import Pkcs12.Der.Primitive
import Pkcs12.Proofs.Der.Element

namespace Pkcs12

namespace Bytes

/-- The octets with every bit changed. -/
def complement (b : Bytes) : Bytes :=
  b.map (~~~ ·)

@[simp] theorem length_complement (b : Bytes) : (complement b).length = b.length :=
  List.length_map _

/-- Octets and their complement add up to the largest number of their length,
octet by octet. -/
private theorem toNat_complement (b : Bytes) :
    toNat (complement b) + toNat b + 1 = 256 ^ b.length := by
  induction b with
  | nil => rfl
  | cons x b ih =>
      have hx : x.toNat < 256 := x.toNat_lt
      have hnot : (~~~x).toNat + x.toNat = 255 := by
        rw [UInt8.toNat_not]
        show 256 - 1 - x.toNat + x.toNat = 255
        omega
      have hfirst : 256 ^ b.length * (~~~x).toNat + 256 ^ b.length * x.toNat
          = 256 ^ b.length * 255 := by rw [← Nat.mul_add, hnot]
      show toNat (~~~x :: complement b) + toNat (x :: b) + 1 = 256 ^ (b.length + 1)
      rw [toNat_cons, toNat_cons, length_complement, Nat.pow_succ]
      omega

end Bytes

namespace Der

-- ============================================================ integers

/-- What is written for a natural number denotes it, and the bit for the sign is
clear. There is at least one octet, even for zero. -/
private theorem exists_writeNat (n : Nat) :
    ∃ b rest, writeNat n = b :: rest ∧ b.toNat < 128 ∧ Bytes.toNat (writeNat n) = n := by
  have hcount : octetCount (2 * n) ≤ max 1 (octetCount (2 * n)) := Nat.le_max_right _ _
  have hroom : 2 * n < 256 ^ max 1 (octetCount (2 * n)) := (octetCount_le_iff _ _).1 hcount
  have hvalue : Bytes.toNat (writeNat n) = n := by
    rw [writeNat, Bytes.toNat_ofNat, Nat.mod_eq_of_lt (by omega)]
  have hlength : (writeNat n).length = max 1 (octetCount (2 * n)) := Bytes.length_ofNat _ _
  cases hb : writeNat n with
  | nil =>
      rw [hb, List.length_nil] at hlength
      omega
  | cons b rest =>
      rw [← hlength, hb, List.length_cons, Nat.pow_succ] at hroom
      rw [hb] at hvalue
      refine ⟨b, rest, rfl, ?_, hvalue⟩
      -- an upper bit that is set would already make the number too large
      apply Decidable.byContradiction
      intro hset
      have hle : 256 ^ rest.length * 128 ≤ 256 ^ rest.length * b.toNat :=
        Nat.mul_le_mul_left _ (by omega)
      rw [Bytes.toNat_cons] at hvalue
      omega

theorem length_writeNat_le {n k : Nat} (hk : 1 ≤ k) (h : 2 * n < 256 ^ k) :
    (writeNat n).length ≤ k := by
  have hcount : octetCount (2 * n) ≤ k := (octetCount_le_iff _ k).2 h
  rw [writeNat, Bytes.length_ofNat]
  omega

/-- The contents for an integer: those of a negative number are the
complement of those of a natural one. -/
def writeInt : Int → Bytes
  | .ofNat n => writeNat n
  | .negSucc n => Bytes.complement (writeNat n)

/-- An integer of either sign takes no more octets than leave room for a bit more
than it has. -/
theorem length_writeInt_le {n : Int} {k : Nat} (hk : 1 ≤ k) (h : 2 * n.natAbs < 256 ^ k) :
    (writeInt n).length ≤ k := by
  cases n with
  | ofNat n => exact length_writeNat_le hk h
  | negSucc n =>
      rw [writeInt, Bytes.length_complement]
      rw [Int.natAbs_negSucc] at h
      exact length_writeNat_le hk (by omega)

/-- An integer is read from its two's complement. -/
theorem readInt_writeInt (n : Int) : readInt (writeInt n) = n := by
  cases n with
  | ofNat n =>
      obtain ⟨b, rest, hwrite, hsign, hvalue⟩ := exists_writeNat n
      rw [hwrite] at hvalue
      simp only [writeInt, hwrite, readInt, hvalue]
      rw [if_pos hsign]
      rfl
  | negSucc n =>
      obtain ⟨b, rest, hwrite, hsign, hvalue⟩ := exists_writeNat n
      have hsum := Bytes.toNat_complement (writeNat n)
      have hlength := Bytes.length_complement (writeNat n)
      rw [hvalue] at hsum
      rw [hwrite] at hsum hlength
      -- the complement of a clear sign bit is set, so the number is read as a
      -- negative one, from its sum with the complement
      have hset : ¬ (~~~b).toNat < 128 := by
        rw [UInt8.toNat_not]
        show ¬ 256 - 1 - b.toNat < 128
        omega
      have hcast : ((256 ^ (b :: rest).length : Nat) : Int) = 256 ^ (b :: rest).length := by
        rw [Int.natCast_pow]
        rfl
      show readInt (Bytes.complement (writeNat n)) = _
      rw [hwrite]
      show (if (~~~b).toNat < 128 then _ else _) = _
      rw [if_neg hset]
      show (Bytes.toNat (Bytes.complement (b :: rest)) : Int)
        - 256 ^ (Bytes.complement (b :: rest)).length = _
      rw [hlength, ← hcast, ← hsum, Int.negSucc_eq]
      omega

-- ======================================================= octet strings

/-- An octet string that is not open is its contents. -/
theorem readOctets_distinguished (tag : Tag) (contents : Bytes) :
    readOctets (Element.distinguished tag contents) = some contents := by
  rw [readOctets, joinPieces.eq_def]
  rfl

end Der

end Pkcs12
