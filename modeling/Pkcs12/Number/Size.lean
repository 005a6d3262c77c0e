/-
Amounts of memory: how much a computation finds, and how an amount is told.

# How much there is

Two requests fail for want of memory: for hash blocks that do not fit into
it, and for more trials than there are places for. What counts as too much
is a matter of the machine, so the machine's memory is a value (`Memory`)
that such a request is given, and what is proved of a request is proved
for every memory. Only one bound is part of the type: no machine has more
than `2 ^ 62` octets, so what fits into memory is also within the limits
that the numbers themselves have.

# How an amount is told

An amount is told in the largest unit of which there is at least one, the
quotient being rounded to a binary64 number first and to three significant
digits then. A quotient that rounds to 1024 counts as one of the next
unit.
-/
import Pkcs12.Number.Layout

namespace Pkcs12

/-- The memory that a computation finds. -/
structure Memory where
  octets : Nat
  octets_le : octets ≤ 2 ^ 62

/-- A number with three significant digits, or with all its digits before
the point when there are more. The point is always there. -/
def Binary64.threeDigits (x : Binary64) : String :=
  let fits := fun (t : String) => t.length ≤ 4
  if fits (x.fixedText 2) then x.fixedText 2
  else if fits (x.fixedText 1) then x.fixedText 1
  else x.fixedText 0

namespace Memory

/-- The memory of a common machine: thirty-two GiB. -/
def common : Memory where
  octets := 2 ^ 35
  octets_le := Nat.pow_le_pow_right (by decide) (by decide)

/-- The units from one KiB on, each 1024 times the one before. -/
def units : List String := ["KiB", "MiB", "GiB", "TiB", "PiB", "EiB"]

/-- How often a number of octets has the unit with a given index. -/
def quotient (octets unit : Nat) : Binary64 :=
  (Binary64.ofRatio? false octets (1024 ^ (unit + 1))).getD (Binary64.infinity false)

/-- The index of the unit for a number of octets, of at least one KiB. -/
def unitFor (octets : Nat) : Nat :=
  let unit := octets.log2 / 10 - 1
  let (num, den) := (quotient octets unit).magnitude
  if roundHalfEven num den = 1024 then unit + 1 else unit

/-- A number of octets, at least one KiB, in words. -/
def sizeText (octets : Nat) : String :=
  let unit := unitFor octets
  let number := (quotient octets unit).threeDigits
  let name := units.getD unit "EiB"
  s!"{number} {name}"

end Memory

end Pkcs12
