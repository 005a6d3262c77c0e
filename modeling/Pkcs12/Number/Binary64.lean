/-
IEEE 754 binary64 numbers as words.

# Design

No arithmetic of the machine is used: a finite word is read as an exact
significand and exponent, and a quotient or a decimal is rounded by exact
integer arithmetic, to nearest, ties to the even significand. So every result
is a value that a proof can compute.

# Rounding

A number is a significand times a power of two, of which the smallest is
`2 ^ -1074`; `shift` counts from there, and is one less than the exponent field
for normal numbers. `shiftFor` finds the shift at which a quotient has
fifty-three bits at most before the point, from the lengths of numerator and
denominator, which give it up to one. Rounding may carry into a further bit.
The word needs no correction for that: its fields are next to one another, and
a significand of `2 ^ 53` added to them is the next exponent with a fraction of
zero (`assemble`). The same addition, done on numbers first, tells whether the
result is beyond the largest finite one.
-/
import Pkcs12.Bytes

namespace Pkcs12

/-- A binary64 number, given by its bits. -/
structure Binary64 where
  bits : UInt64
deriving DecidableEq, Repr

/-- The quotient rounded to the nearest integer, a tie to the even one. -/
def roundHalfEven (num den : Nat) : Nat :=
  let q := num / den
  let r := num % den
  if 2 * r < den then q
  else if den < 2 * r then q + 1
  else q + q % 2

namespace Binary64

-- ============================================================= fields

def isNegative (x : Binary64) : Bool :=
  0x8000000000000000 ≤ x.bits

/-- The biased exponent, eleven bits. -/
def exponentField (x : Binary64) : Nat :=
  x.bits.toNat / 2 ^ 52 % 2048

/-- The fraction, fifty-two bits. -/
def fraction (x : Binary64) : Nat :=
  x.bits.toNat % 2 ^ 52

/-- Neither infinite nor a NaN. -/
def isFinite (x : Binary64) : Bool :=
  x.exponentField != 2047

/-- All exponent bits set and a fraction: not a number. -/
def isNaN (x : Binary64) : Bool :=
  !x.isFinite && x.fraction != 0

/-- The significand of a finite number, its hidden bit included. -/
def significand (x : Binary64) : Nat :=
  if x.exponentField = 0 then x.fraction else 2 ^ 52 + x.fraction

/-- The magnitude of a finite number is its significand times two to this
power, less 1074: subnormal numbers share the exponent of the smallest
normal ones. -/
def shift (x : Binary64) : Nat :=
  x.exponentField - 1

/-- Numerator and denominator of the magnitude of a finite number. -/
def magnitude (x : Binary64) : Nat × Nat :=
  (x.significand * 2 ^ x.shift, 2 ^ 1074)

-- ============================================================ rounding

/-- The word with this sign for the number `significand * 2 ^ (shift - 1074)`.
A significand that reached `2 ^ 53` by rounding carries into the exponent,
which is exactly the next power of two. -/
def assemble (negative : Bool) (significand shift : Nat) : Binary64 :=
  ⟨(if negative then 0x8000000000000000 else 0)
    + UInt64.ofNat (shift * 2 ^ 52 + significand)⟩

/-- Positive or negative zero. -/
def zero (negative : Bool) : Binary64 :=
  assemble negative 0 0

/-- Positive or negative infinity. -/
def infinity (negative : Bool) : Binary64 :=
  assemble negative 0 2047

/-- The exponent shift at which the significand of `num / den` has at most
fifty-three bits before rounding. -/
def shiftFor (num den : Nat) : Nat :=
  let guess := num.log2 + 1074 - den.log2 - 53
  if num * 2 ^ 1074 / (den * 2 ^ guess) < 2 ^ 53 then guess else guess + 1

/-- The number nearest to `num / den` with the given sign; nothing when its
magnitude is beyond the largest finite number. -/
def ofRatio? (negative : Bool) (num den : Nat) : Option Binary64 :=
  let shift := shiftFor num den
  let significand := roundHalfEven (num * 2 ^ 1074) (den * 2 ^ shift)
  if num = 0 then some (zero negative)
  else if 2047 * 2 ^ 52 ≤ shift * 2 ^ 52 + significand then none
  else some (assemble negative significand shift)

/-- The number nearest to the decimal `digits * 10 ^ exponent`, an infinity
when that is too large. Exponents far outside the range are settled by
their size, so that no huge power is computed. -/
def ofDecimal (negative : Bool) (digits : Nat) (exponent : Int) : Binary64 :=
  let order := exponent + digits.log2 / 3
  if digits = 0 then zero negative
  else if 400 < exponent then infinity negative
  else if order < -400 then zero negative
  else
    let ratio :=
      if 0 ≤ exponent then (digits * 10 ^ exponent.toNat, 1)
      else (digits, 10 ^ (-exponent).toNat)
    (ofRatio? negative ratio.1 ratio.2).getD (infinity negative)

end Binary64

end Pkcs12
