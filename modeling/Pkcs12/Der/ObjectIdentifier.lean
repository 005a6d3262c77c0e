/-
Object identifiers: sequences of arcs.

# Two forms

In text the arcs are decimal numbers with dots between them; in octets they
are numbers in base 128, of which the first stands for the first two arcs. That
works since the first arc is at most two, and below two the second is at most
thirty-nine.

# What may be a name

The dotted form may use digits of any script and leading zeros; it is kept as
it came and only becomes numbers when it is encoded. `isDotted` is the form
that a name has to have, which is less than denoting an object identifier:
arcs may be too large, or too long to be read at all. Contents that were read
give a dotted form of their own. Without a finished number in them it is
empty, and is then no name; an unfinished number at the end is dropped.
-/
import Pkcs12.Der.Header
import Pkcs12.Text.Numeral

namespace Pkcs12.Der

-- ======================================================== dotted form

/-- The parts of a text between dots. There is always at least one. -/
def dotParts : Text → List Text
  | [] => [[]]
  | c :: rest =>
    if c.isChar '.' then [] :: dotParts rest
    else
      match dotParts rest with
      | [] => [[c]]
      | part :: parts => (c :: part) :: parts

/-- Whether a part is a run of decimal digits. -/
def isDigits (t : Text) : Bool :=
  !t.isEmpty && t.all fun c => c.decimalValue?.isSome

/-- Whether a text is a dotted object identifier: two or more runs of
digits with dots between them. -/
def isDotted (t : Text) : Bool :=
  let parts := dotParts t
  2 ≤ parts.length && parts.all isDigits

/-- The arcs of a dotted form, unless a numeral is too long. -/
def arcsOfDotted? (t : Text) : Option (List Nat) :=
  (dotParts t).mapM fun part => (Text.toNat part).toOption

/-- The dotted form of arcs, unless a numeral would be too long. -/
def dottedOfArcs? (arcs : List Nat) : Option String :=
  if arcs.all (· < Numeral.bound) then some (".".intercalate (arcs.map toString)) else none

-- ============================================================ contents

/-- The numbers in base 128 that octets hold, a number begun in `acc`
included. An unfinished last one is dropped. -/
def subidentifiers (acc : Nat) : Bytes → List Nat
  | [] => []
  | b :: rest =>
    if b.toNat < 128 then (128 * acc + b.toNat) :: subidentifiers 0 rest
    else subidentifiers (128 * acc + (b.toNat - 128)) rest

/-- The arcs that subidentifiers stand for: the first one holds two. -/
def arcsOfSubidentifiers : List Nat → List Nat
  | [] => []
  | n :: rest =>
    if 80 ≤ n then 2 :: (n - 80) :: rest
    else if 40 ≤ n then 1 :: (n - 40) :: rest
    else 0 :: n :: rest

/-- The subidentifiers that arcs are encoded by. The first arc is at most
two, and below two the second is at most thirty-nine. -/
def subidentifiersOfArcs? : List Nat → Option (List Nat)
  | a :: b :: rest =>
    if 2 < a ∨ (a < 2 ∧ 40 ≤ b) then none else some ((40 * a + b) :: rest)
  | _ => none

/-- The octets before the last one of a number in base 128. -/
def base128Front (n : Nat) : Bytes :=
  if _stop : n = 0 then [] else base128Front (n / 128) ++ [UInt8.ofNat (128 + n % 128)]
termination_by n
decreasing_by omega

/-- The shortest form of a number in base 128. -/
def writeBase128 (n : Nat) : Bytes :=
  base128Front (n / 128) ++ [UInt8.ofNat (n % 128)]

/-- The dotted form of an object identifier's contents, empty when they
hold no finished number. -/
def readDotted? (contents : Bytes) : Option String :=
  dottedOfArcs? (arcsOfSubidentifiers (subidentifiers 0 contents))

/-- The contents for a dotted form, if it denotes an object identifier. -/
def writeDotted? (t : Text) : Option Bytes := do
  let arcs ← arcsOfDotted? t
  let numbers ← subidentifiersOfArcs? arcs
  return numbers.flatMap writeBase128

end Pkcs12.Der
