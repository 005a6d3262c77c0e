/-
Integers as people write them: white space around, an optional sign, and
decimal digits of any script with single underscores between them.

The same rule reads settings, option values and the arcs of an object
identifier. Numerals of more than 4300 digits are neither read nor written,
since the work grows with the square of their length; leading zeros count. The
run of digits and underscores in front is judged first, so a text that has too
many digits in it is too long even if something else stands behind them, while
an underscore that is out of place makes it no numeral at all.
-/
import Pkcs12.Bytes
import Pkcs12.Text.Blank
import Pkcs12.Text.DecimalDigit

namespace Pkcs12

-- ============================================================== limits

namespace Numeral

/-- The most digits that a numeral may have. -/
def maxDigits : Nat := 4300

/-- The least number whose numeral is too long. -/
def bound : Nat := 10 ^ maxDigits

/-- Why a text denotes no integer. -/
inductive Fault where
  | malformed
  /-- Well-formed as far as the digits go, but there are too many. -/
  | tooLong (digits : Nat)
deriving DecidableEq, Repr

end Numeral

-- ============================================================= reading

namespace Text

/-- Reads digits with single underscores between them onto `acc`. An
underscore makes a digit due: the text may not end there, nor may another
underscore follow. -/
def digitRun (due : Bool) (acc : Nat) : Text → Option Nat
  | [] => if due then none else some acc
  | c :: cs =>
    if c.isChar '_' then
      if due then none else digitRun true acc cs
    else
      match c.decimalValue? with
      | some d => digitRun false (10 * acc + d) cs
      | none => none

/-- Whether a code point may stand in a run of digits. -/
def inRun (c : CodePoint) : Bool :=
  c.isChar '_' || c.decimalValue?.isSome

/-- The number that a text without a sign denotes. The digits in front are
counted before anything behind them is looked at. -/
def toNat (t : Text) : Except Numeral.Fault Nat :=
  let run := t.takeWhile inRun
  match digitRun true 0 run with
  | none => .error .malformed
  | some n =>
    let digits := run.countP fun c => c.decimalValue?.isSome
    if Numeral.maxDigits < digits then .error (.tooLong digits)
    else if run.length < t.length then .error .malformed
    else .ok n

/-- A number behind an optional sign. -/
def signed : Text → Except Numeral.Fault Int
  | [] => .error .malformed
  | c :: cs =>
    if c.isChar '-' then (toNat cs).map fun n => -(n : Int)
    else if c.isChar '+' then (toNat cs).map Int.ofNat
    else (toNat (c :: cs)).map Int.ofNat

/-- The integer a text denotes, white space at its ends aside. -/
def toInt (t : Text) : Except Numeral.Fault Int :=
  signed (t.trim CodePoint.isNumberBlank)

end Text

end Pkcs12
