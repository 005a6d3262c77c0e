/-
Quotients of at most one are binary floating-point numbers, so a rate of
successes always has a value.

# The shift

A quotient is scaled by a power of two, divided, and rounded to an integer
significand. The shift is guessed from the lengths of both integers, so that
the significand has 53 bits or one more; `quotient_lt` bounds what is divided
by `2 ^ 54`, and rounding adds at most one unit to it (`roundHalfEven_le`).
The guess may be off by one, and the shift that is taken is the guess or one
more (`shiftFor_bounds`).

A number has no value only when its exponent would be too large. With a
quotient that is no more than one, the length of the numerator is not above
that of the denominator, which leaves the exponent far from its largest
value.
-/
import Pkcs12.Number.Binary64

namespace Pkcs12

/-- A quotient is rounded up by one at most. -/
theorem roundHalfEven_le (num den : Nat) : roundHalfEven num den ≤ num / den + 1 := by
  simp only [roundHalfEven]
  split
  · omega
  · split <;> omega

namespace Binary64

/-- The guess at a shift leaves the significand below `2 ^ 54`: the numerator is
below the power of two for its length, the denominator not below its own. -/
private theorem quotient_lt {num den scale shift : Nat} (hden : den ≠ 0)
    (hshift : num.log2 + scale ≤ shift + den.log2 + 53) :
    num * 2 ^ scale / (den * 2 ^ shift) < 2 ^ 54 := by
  have hnum : num < 2 ^ (num.log2 + 1) := Nat.lt_log2_self
  have hlow : 2 ^ den.log2 ≤ den := Nat.log2_self_le hden
  have hpos : 0 < den * 2 ^ shift := Nat.mul_pos (Nat.pos_of_ne_zero hden) (Nat.two_pow_pos _)
  rw [Nat.div_lt_iff_lt_mul hpos]
  calc num * 2 ^ scale < 2 ^ (num.log2 + 1) * 2 ^ scale :=
        Nat.mul_lt_mul_of_pos_right hnum (Nat.two_pow_pos _)
    _ = 2 ^ (num.log2 + 1 + scale) := (Nat.pow_add ..).symm
    _ ≤ 2 ^ (54 + (den.log2 + shift)) := Nat.pow_le_pow_right (by decide) (by omega)
    _ = 2 ^ 54 * (2 ^ den.log2 * 2 ^ shift) := by rw [Nat.pow_add, Nat.pow_add]
    _ ≤ 2 ^ 54 * (den * 2 ^ shift) :=
        Nat.mul_le_mul_left _ (Nat.mul_le_mul_right _ hlow)

/-- The shift is the guess or one more, and never less than what makes the
significand fit. -/
private theorem shiftFor_bounds (num den : Nat) :
    num.log2 + 1074 ≤ shiftFor num den + den.log2 + 53
      ∧ shiftFor num den ≤ num.log2 + 1074 - den.log2 - 53 + 1 := by
  simp only [shiftFor]
  split <;> omega

/-- A quotient of at most one is a number. -/
theorem exists_ofRatio? (negative : Bool) {num den : Nat} (hden : den ≠ 0) (h : num ≤ den) :
    ∃ x, ofRatio? negative num den = some x := by
  simp only [ofRatio?]
  split
  · exact ⟨_, rfl⟩
  next hnum =>
    obtain ⟨hlow, hhigh⟩ := shiftFor_bounds num den
    have hlog : num.log2 ≤ den.log2 := by
      rw [Nat.le_log2 hden]
      exact Nat.le_trans (Nat.log2_self_le hnum) h
    have hround := roundHalfEven_le (num * 2 ^ 1074) (den * 2 ^ shiftFor num den)
    have hquotient := quotient_lt hden hlow
    rw [if_neg (by omega)]
    exact ⟨_, rfl⟩

end Binary64

end Pkcs12
