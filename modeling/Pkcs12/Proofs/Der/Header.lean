/-
What headers are read from: a distinguished header is read back with all that
follows it left over, whatever that is. Reading never looks ahead, so this
one fact carries over to elements and to sequences of them.

# Lengths

The rules leave one form for every length that they can state at all, one
octet for the short lengths and the least number of octets for the others.
`IsMinimalLength` is these rules, `writeLength` a computation; the two agree
(`IsMinimalLength.eq_writeLength`, `isMinimalLength_writeLength`). The link
between them is `octetCount_le_iff`, that `octetCount` is the least number of
octets with room for a number, and everything about leading zeros follows
from it.

# Two bounds

The first octet of the long form counts the others, and the rules reserve its
last value, so lengths from `lengthBound` on cannot be stated. Reading takes
the reserved value like any other: there is one octet more of what can be
read than of what can be stated. `readableBound` is that larger bound. The
room between the two is what makes a whole readable whose parts can be
stated, and most of the statements about identifiers need just that much of
it.
-/
import Pkcs12.Der.Header
import Pkcs12.Proofs.Bytes.Numbers

namespace Pkcs12.Der

-- ======================================================== octet counts

/-- `octetCount` is the least number of octets with room for a number. By
induction on the number of octets, since the recursion divides by 256. -/
theorem octetCount_le_iff (n v : Nat) : octetCount n ≤ v ↔ n < 256 ^ v := by
  induction v generalizing n with
  | zero =>
      unfold octetCount
      split <;> omega
  | succ v ih =>
      unfold octetCount
      split
      next hzero =>
        have hpos : 0 < 256 ^ (v + 1) := Nat.pow_pos (by decide)
        omega
      next hne =>
        rw [Nat.add_le_add_iff_right, ih, Nat.div_lt_iff_lt_mul (by decide), Nat.pow_succ]

private theorem lt_pow_octetCount (n : Nat) : n < 256 ^ octetCount n :=
  (octetCount_le_iff n _).1 (Nat.le_refl _)

/-- Octets without a leading zero are as many as their number needs: with the
first octet in the highest place the number is too large for fewer. -/
private theorem octetCount_toNat {b : Bytes} (h : b.head? ≠ some 0) :
    octetCount (Bytes.toNat b) = b.length := by
  have hle : octetCount (Bytes.toNat b) ≤ b.length :=
    (octetCount_le_iff _ _).2 (Bytes.toNat_lt b)
  cases b with
  | nil => exact Nat.le_antisymm hle (Nat.zero_le _)
  | cons x b =>
      have hx : x.toNat ≠ 0 := by
        intro hzero
        apply h
        rw [List.head?_cons, ← UInt8.toNat_inj.mp (hzero.trans (by decide : 0 = (0 : UInt8).toNat))]
      -- the first octet alone is at least one unit of the highest place
      have hlow : 256 ^ b.length ≤ Bytes.toNat (x :: b) := by
        rw [Bytes.toNat_cons]
        exact Nat.le_trans (Nat.le_mul_of_pos_right _ (by omega)) (Nat.le_add_right _ _)
      have hlarge : ¬ octetCount (Bytes.toNat (x :: b)) ≤ b.length := by
        rw [octetCount_le_iff]
        omega
      rw [List.length_cons] at hle ⊢
      omega

-- ============================================================= lengths

/-- Lengths from here on cannot be stated: the octet in front of the long
form counts at most 126 octets, the value for 127 being reserved. -/
def lengthBound : Nat := 256 ^ 126

/-- Lengths from here on cannot be read. The reserved value is read like the
others, so there is room for what goes around a length that can be stated. -/
def readableBound : Nat := 256 ^ 127

theorem lengthBound_lt_readableBound : lengthBound < readableBound := by
  decide

/-- The minimal definite form of a length: one octet below 128, and
otherwise the count of the length's octets and these without a leading
zero. -/
inductive IsMinimalLength (n : Nat) : Bytes → Prop
  | short (small : n < 128) : IsMinimalLength n [UInt8.ofNat n]
  | long (digits : Bytes) (large : 128 ≤ n) (denotes : Bytes.toNat digits = n)
      (minimal : digits.head? ≠ some 0) (room : digits.length ≤ 126) :
      IsMinimalLength n (UInt8.ofNat (128 + digits.length) :: digits)

/-- Only lengths below the bound have a minimal form, and it is the one that is
written. A long form that is not written would have a leading zero. -/
theorem IsMinimalLength.eq_writeLength {n : Nat} {b : Bytes} (h : IsMinimalLength n b) :
    b = writeLength n ∧ n < lengthBound := by
  cases h with
  | short small =>
      have hpow : 256 ^ 1 ≤ lengthBound := Nat.pow_le_pow_right (by decide) (by decide)
      refine ⟨(if_pos small).symm, ?_⟩
      omega
  | long digits large denotes minimal room =>
      have hcount := octetCount_toNat minimal
      rw [denotes] at hcount
      constructor
      · rw [writeLength, if_neg (by omega), hcount, ← denotes, Bytes.ofNat_toNat]
      · exact (octetCount_le_iff _ _).1 (by omega)

/-- Every length below the bound has a minimal form. -/
theorem isMinimalLength_writeLength {n : Nat} (h : n < lengthBound) :
    IsMinimalLength n (writeLength n) := by
  unfold writeLength
  split
  next hshort => exact .short hshort
  next hlong =>
    have hvalue : Bytes.toNat (Bytes.ofNat (octetCount n) n) = n := by
      rw [Bytes.toNat_ofNat, Nat.mod_eq_of_lt (lt_pow_octetCount n)]
    have hlength : (Bytes.ofNat (octetCount n) n).length = octetCount n := Bytes.length_ofNat _ _
    -- behind a leading zero the number would need fewer octets
    have hminimal : (Bytes.ofNat (octetCount n) n).head? ≠ some 0 := by
      intro hzero
      obtain ⟨rest, hrest⟩ := List.head?_eq_some_iff.1 hzero
      rw [hrest, List.length_cons] at hlength
      rw [hrest, Bytes.toNat_cons, UInt8.toNat_zero, Nat.mul_zero, Nat.zero_add] at hvalue
      have hfewer : octetCount n ≤ rest.length := by
        rw [octetCount_le_iff, ← hvalue]
        exact Bytes.toNat_lt rest
      omega
    have hroom : octetCount n ≤ 126 := (octetCount_le_iff n 126).2 h
    have hform := IsMinimalLength.long _ (by omega) hvalue hminimal (by rw [hlength]; exact hroom)
    rw [hlength] at hform
    exact hform

/-- A length that can be stated takes at most 127 octets. -/
theorem length_writeLength_le {n : Nat} (h : n < lengthBound) : (writeLength n).length ≤ 127 := by
  have hcount : octetCount n ≤ 126 := (octetCount_le_iff n 126).2 h
  unfold writeLength
  split
  · rw [List.length_singleton]
    omega
  · rw [List.length_cons, Bytes.length_ofNat]
    omega

/-- A length that is written is read again, and nothing behind it is touched. -/
theorem readLength_writeLength {n : Nat} (h : n < readableBound) (rest : Bytes) :
    readLength (writeLength n ++ rest) = some (some n, rest) := by
  unfold writeLength
  split
  next hshort =>
    have hn : (UInt8.ofNat n).toNat = n :=
      UInt8.toNat_ofNat_of_lt' (show _ < 256 by omega)
    rw [List.singleton_append]
    simp only [readLength, hn]
    rw [if_pos hshort]
  next hlong =>
    have hcount : octetCount n ≤ 127 := (octetCount_le_iff n 127).2 h
    have hpos : ¬ octetCount n ≤ 0 := by
      rw [octetCount_le_iff]
      omega
    have hlead : (UInt8.ofNat (128 + octetCount n)).toNat = 128 + octetCount n :=
      UInt8.toNat_ofNat_of_lt' (show _ < 256 by omega)
    rw [List.cons_append]
    simp only [readLength, hlead]
    have hroom : ¬ (Bytes.ofNat (octetCount n) n ++ rest).length < 128 + octetCount n - 128 := by
      rw [List.length_append, Bytes.length_ofNat]
      omega
    rw [if_neg (by omega), if_neg (by omega), if_neg hroom, Nat.add_sub_cancel_left,
      List.take_left' (Bytes.length_ofNat _ _), List.drop_left' (Bytes.length_ofNat _ _),
      Bytes.toNat_ofNat, Nat.mod_eq_of_lt (lt_pow_octetCount n)]

-- ================================================================ tags

private theorem TagClass.ofBits_bits (c : TagClass) : TagClass.ofBits c.bits = c := by
  cases c <;> rfl

private theorem TagClass.bits_lt (c : TagClass) : c.bits < 4 := by
  cases c <;> decide

/-- A tag with a low number is read from its octet: class, form and number stand
in fixed places, and the numbers from 31 on are the ones that go beyond. -/
theorem readTag_octet {t : Tag} (h : t.number < 31) (rest : Bytes) :
    readTag (t.octet :: rest) = some (t, rest) := by
  have hclass : t.cls.bits < 4 := t.cls.bits_lt
  have hcons : t.constructed.toNat < 2 := Bool.toNat_lt _
  have hoctet : t.octet.toNat = 64 * t.cls.bits + 32 * t.constructed.toNat + t.number := by
    rw [Tag.octet, UInt8.toNat_ofNat']
    omega
  have hupper : (64 * t.cls.bits + 32 * t.constructed.toNat + t.number) / 64 = t.cls.bits := by
    omega
  have hmiddle : (64 * t.cls.bits + 32 * t.constructed.toNat + t.number) / 32 % 2
      = t.constructed.toNat := by omega
  have hlower : (64 * t.cls.bits + 32 * t.constructed.toNat + t.number) % 32 = t.number := by
    omega
  have hflag : (t.constructed.toNat == 1) = t.constructed := by
    cases t.constructed <;> rfl
  simp only [readTag, hoctet, hupper, hmiddle, hlower, hflag, TagClass.ofBits_bits]
  rw [if_pos h]

-- ============================================================= headers

/-- The distinguished header for a tag and a length. -/
def Header.distinguished (tag : Tag) (length : Nat) : Header where
  tag := tag
  length := some length
  octets := tag.octet :: writeLength length

/-- A distinguished header is read from its octets, and so are these octets
themselves, which a header remembers as they were. -/
theorem Header.read_distinguished {tag : Tag} {length : Nat} (htag : tag.number < 31)
    (hlength : length < readableBound) (rest : Bytes) :
    Header.read ((Header.distinguished tag length).octets ++ rest)
      = some (Header.distinguished tag length, rest) := by
  -- the header's own octets are found by what is left over behind them
  have htake (front : Bytes) :
      (front ++ rest).take ((front ++ rest).length - rest.length) = front := by
    rw [List.length_append, Nat.add_sub_cancel, List.take_left' rfl]
  have hread : Header.read ((tag.octet :: writeLength length) ++ rest)
      = some (⟨tag, some length, tag.octet :: writeLength length⟩, rest) := by
    rw [Header.read, List.cons_append, readTag_octet htag]
    simp only [readLength_writeLength hlength]
    rw [← List.cons_append, htake]
    rfl
  exact hread

end Pkcs12.Der
