/-
Octets as pairs of hexadecimal digits. Writing uses lower case and no
gaps; reading takes either case and ASCII white space between octets, but
not between the two digits of one.
-/
import Pkcs12.Bytes
import Pkcs12.Text.Blank

namespace Pkcs12.Hex

-- ============================================================ digits

/-- The lower-case digit for a value below sixteen. -/
def digit (n : Nat) : Char :=
  if n < 10 then Char.ofNat (0x30 + n) else Char.ofNat (0x57 + n)

/-- The value of a digit of either case. -/
def value? (c : CodePoint) : Option Nat :=
  let n := c.val
  if 0x30 ≤ n ∧ n ≤ 0x39 then some (n - 0x30)
  else if 0x61 ≤ n ∧ n ≤ 0x66 then some (n - 0x57)
  else if 0x41 ≤ n ∧ n ≤ 0x46 then some (n - 0x37)
  else none

-- ============================================================= codec

def pair (b : UInt8) : List Char :=
  [digit (b.toNat / 16), digit (b.toNat % 16)]

/-- The characters that denote an octet string. -/
def encode (b : Bytes) : List Char :=
  b.flatMap pair

/-- The octets that a text denotes. -/
def decode : Text → Option Bytes
  | [] => some []
  | [c] => if c.isAsciiBlank then some [] else none
  | c :: d :: rest =>
    if c.isAsciiBlank then decode (d :: rest)
    else do
      let high ← value? c
      let low ← value? d
      let octets ← decode rest
      return UInt8.ofNat (16 * high + low) :: octets

end Pkcs12.Hex

namespace Pkcs12

/-- The lower-case hexadecimal text of an octet string. -/
def Bytes.toHex (b : Bytes) : String :=
  String.ofList (Hex.encode b)

end Pkcs12
