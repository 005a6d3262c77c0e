/-
Integers and octet strings, from their contents.

An integer is written in two's complement with no more octets than it needs
and read with any number of them; none at all denote zero.

An octet string may be open, and then consists of pieces that are octet strings
themselves, open ones among them. Joining the pieces is a recursion on the
levels, as measuring an element is, and an octet string that is constructed but
has a length is not taken for one.
-/
import Pkcs12.Der.Element

namespace Pkcs12.Der

-- ============================================================ integers

/-- The contents for a natural number: room for one more bit than it has,
so that the sign bit stays clear. -/
def writeNat (n : Nat) : Bytes :=
  Bytes.ofNat (max 1 (octetCount (2 * n))) n

/-- The number that contents denote in two's complement; no octets denote
zero. -/
def readInt (contents : Bytes) : Int :=
  match contents with
  | [] => 0
  | b :: _ =>
    let n : Int := Bytes.toNat contents
    if b.toNat < 128 then n else n - 256 ^ contents.length

-- ======================================================= octet strings

/-- Whether an element may serve as an octet string: primitive, or open and
so in pieces. -/
def isOctetString (e : Element) : Bool :=
  e.tag.cls == .universal && e.tag.number == 4 && (!e.tag.constructed || e.isOpen)

/-- The octets of an element taken as an octet string: the pieces of an
open one joined, at most `nesting` further levels down. -/
def joinPieces (nesting : Nat) (e : Element) : Option Bytes :=
  if !e.isOpen then some e.contents
  else
    match e.members with
    | none => none
    | some pieces =>
      let inner :=
        match nesting with
        | 0 => fun _ => none
        | deeper + 1 => joinPieces deeper
      (pieces.mapM fun p => if isOctetString p then inner p else none).map List.flatten

/-- The octets of an element taken as an octet string. -/
def readOctets (e : Element) : Option Bytes :=
  joinPieces maxNesting e

end Pkcs12.Der
