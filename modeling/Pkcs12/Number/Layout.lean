/-
How a binary64 number is written. Reports show the shortest digits that
read back, positionally while the first digit lies between the fourth
place after the point and the sixteenth before it, otherwise with a power
of ten of at least two digits. Summaries show a fixed number of places,
the exact value rounded with ties to the even digit.
-/
import Pkcs12.Number.Shortest

namespace Pkcs12.Binary64

/-- The words for what is no finite number. -/
structure Special where
  nan : String
  infinity : String

/-- The sign of a number, as written. -/
def signText (x : Binary64) : String :=
  if x.isNegative then "-" else ""

-- ========================================================== shortest

/-- Digits `ds` whose first one stands at the power `first`, with a point
and at least one digit on either side of it. -/
def positional (ds : List Char) (first : Int) : List Char :=
  if first < 0 then
    '0' :: '.' :: (List.replicate (-first - 1).toNat '0' ++ ds)
  else
    let whole := first.toNat + 1
    let front := ds.take whole ++ List.replicate (whole - ds.length) '0'
    let back := ds.drop whole
    front ++ '.' :: (if back.isEmpty then ['0'] else back)

/-- Digits with one before the point and a power of ten behind them. -/
def scientific (ds : List Char) (first : Int) : List Char :=
  let back := ds.drop 1
  let mantissa := ds.take 1 ++ (if back.isEmpty then [] else '.' :: back)
  let power := decimalDigits first.natAbs
  let padded := if power.length < 2 then '0' :: power else power
  mantissa ++ 'e' :: (if first < 0 then '-' else '+') :: padded

/-- The text of a number by its shortest digits. -/
def shortestText (special : Special) (x : Binary64) : String :=
  if x.isNaN then special.nan
  else if !x.isFinite then x.signText ++ special.infinity
  else if x.significand = 0 then x.signText ++ "0.0"
  else
    let d := x.shortest
    let ds := decimalDigits d.digits
    let body :=
      if -4 ≤ d.exponent ∧ d.exponent < 16 then positional ds d.exponent
      else scientific ds d.exponent
    x.signText ++ String.ofList body

-- ============================================================== fixed

/-- The text of a number with a fixed number of places. The point stands
even before no place at all, and the sign stays on a number that rounds to
zero. -/
def fixedText (places : Nat) (x : Binary64) : String :=
  if x.isNaN then "nan"
  else if !x.isFinite then x.signText ++ "inf"
  else
    let (num, den) := x.magnitude
    let scaled := roundHalfEven (num * 10 ^ places) den
    let whole := decimalDigits (scaled / 10 ^ places)
    let part := if places = 0 then [] else decimalDigits (scaled % 10 ^ places)
    let zeros := List.replicate (places - part.length) '0'
    x.signText ++ String.ofList (whole ++ '.' :: (zeros ++ part))

end Pkcs12.Binary64
