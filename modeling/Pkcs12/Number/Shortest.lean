/-
The shortest decimal that reads back as a given binary64 number.

# Search

Every finite number owns an interval of reals that round to it. For one, two,
… seventeen digits the search looks at the two points of that decimal grid
around the number; the first grid with a point in the interval wins, and of two
points the nearer one, a tie going to the even digit. Looking at the two
neighbours is enough: if a grid has any point in the interval, it has one next
to the number. Seventeen digits are always enough.

# Exactness

The ends of the interval, the points of a grid and the number itself are all
quotients of natural numbers, and they are compared by multiplying out.
Nothing is approximated, so there is no second try with more precision.
-/
import Pkcs12.Number.Binary64

namespace Pkcs12

/-- A positive decimal number: `digits * 10 ^ (exponent - (count - 1))`, where
`count` is the number of digits. So `exponent` is the power of ten of the
first digit. -/
structure Decimal where
  digits : Nat
  exponent : Int
deriving DecidableEq, Repr

/-- The decimal digits of a number, most significant first. -/
def decimalDigits (n : Nat) : List Char :=
  (toString n).toList

namespace Shortest

/-- A nonnegative rational number. -/
structure Ratio where
  num : Nat
  den : Nat

/-- The reals that round to a number: from `low` to `high`, with the ends
when the significand is even. -/
structure Interval where
  low : Ratio
  high : Ratio
  closed : Bool

/-- The interval of a positive finite number. Below a power of two the
numbers lie twice as dense, so the lower half of its interval is half as
wide; the smallest normal number has the subnormal ones at the same
distance and is no exception to the even spacing. -/
def interval (x : Binary64) : Interval :=
  let unit := 2 ^ x.shift
  let den := 2 ^ 1074 * 4
  let below := if x.fraction = 0 ∧ 1 < x.exponentField then unit else 2 * unit
  { low := ⟨4 * x.significand * unit - below, den⟩
    high := ⟨4 * x.significand * unit + 2 * unit, den⟩
    closed := x.significand % 2 == 0 }

/-- Whether an interval holds the rational `num / den`. -/
def Interval.holds (i : Interval) (num den : Nat) : Bool :=
  let left := i.low.num * den
  let here := num * i.low.den
  let right := i.high.num * den
  if i.closed then left ≤ here && here ≤ right else left < here && here < right

/-- The power of ten of the first digit of `num / den`, for a positive
quotient. -/
def firstPower (num den : Nat) : Int :=
  if den ≤ num then (decimalDigits (num / den)).length - 1
  else
    -- the least power that brings the quotient to one or above
    let reach := (List.range 400).find? fun j => den ≤ num * 10 ^ j
    Int.negOfNat (reach.getD 0)

/-- The grid point `digits * 10 ^ power` as a rational. -/
def gridPoint (digits : Nat) (power : Int) : Nat × Nat :=
  if 0 ≤ power then (digits * 10 ^ power.toNat, 1) else (digits, 10 ^ (-power).toNat)

/-- The point of the grid with the given number of digits that reads back
as the number, if there is one. -/
def onGrid? (x : Binary64) (first : Int) (count : Nat) : Option Nat :=
  let (num, den) := x.magnitude
  let power := first - (count - 1 : Nat)
  let (unitNum, unitDen) := gridPoint 1 power
  -- the number in units of the grid
  let scaled := num * unitDen
  let unit := den * unitNum
  let under := scaled / unit
  let holds := fun digits =>
    let (n, d) := gridPoint digits power
    (interval x).holds n d
  match holds under, holds (under + 1) with
  | true, true => some (roundHalfEven scaled unit)
  | true, false => some under
  | false, true => some (under + 1)
  | false, false => none

/-- The decimal without the zeros at its end. -/
def strip (fuel : Nat) (n : Nat) : Nat :=
  match fuel with
  | 0 => n
  | fuel + 1 => if n % 10 = 0 ∧ n ≠ 0 then strip fuel (n / 10) else n

end Shortest

/-- The shortest decimal that reads back as the magnitude of a finite
nonzero number, and of those the nearest. -/
def Binary64.shortest (x : Binary64) : Decimal :=
  let (num, den) := x.magnitude
  let first := Shortest.firstPower num den
  let counts := List.range' 1 17
  match counts.findSome? fun n => (Shortest.onGrid? x first n).map fun d => (n, d) with
  | some (n, d) =>
    -- a digit count one above the grid's means that the point is a power of ten
    let carried := (decimalDigits d).length - n
    { digits := Shortest.strip 20 d, exponent := first + carried }
  | none => { digits := 0, exponent := 0 }

end Pkcs12
