/-
The header of an encoded element: its tag and its length.

# Writing and reading

Writing follows the distinguished rules, which leave one form for everything.
Reading is more liberal, because files in circulation are: a length may take
more octets than it needs, and a constructed element may leave its length open
and end with a marker instead. Tags have one form only, so a number below 31
in the form of the larger ones is refused, and so are leading zeros.

A header keeps the octets that it was read from. That is what lets an element
be handed on as it came, and it is all that remains of the liberties.

# Numbers

Lengths are in base 256, tag numbers and the arcs of an object identifier in
base 128 with a mark on all octets but the last. A length is written with as
few octets as it needs. The octet that counts them has seven bits for that and
reserves its last value, so from `256 ^ 126` on there is no distinguished form
for a length, and what is written then is not meant to be one.
-/
import Pkcs12.Bytes

namespace Pkcs12.Der

-- =============================================================== tags

/-- The class of a tag, which says who assigned its number. -/
inductive TagClass where
  | universal
  | application
  | contextSpecific
  | privateUse
deriving DecidableEq, Repr

/-- The class in the two upper bits of an octet. -/
def TagClass.ofBits : Nat → TagClass
  | 0 => .universal
  | 1 => .application
  | 2 => .contextSpecific
  | _ => .privateUse

def TagClass.bits : TagClass → Nat
  | .universal => 0
  | .application => 1
  | .contextSpecific => 2
  | .privateUse => 3

/-- A tag: what kind of element it is, and whether its contents are
elements again. -/
structure Tag where
  cls : TagClass
  constructed : Bool
  number : Nat
deriving DecidableEq, Repr

namespace Tag

def integer : Tag := ⟨.universal, false, 2⟩
def octetString : Tag := ⟨.universal, false, 4⟩
def objectIdentifier : Tag := ⟨.universal, false, 6⟩
def sequence : Tag := ⟨.universal, true, 16⟩

/-- The octet of a tag whose number is below 31. -/
def octet (t : Tag) : UInt8 :=
  UInt8.ofNat (64 * t.cls.bits + 32 * t.constructed.toNat + t.number % 32)

end Tag

-- ============================================================ base 128

/-- A number in base 128: every octet but the last has its upper bit set.
Digits are added to `acc`. -/
def readBase128 (acc : Nat) : Bytes → Option (Nat × Bytes)
  | [] => none
  | b :: rest =>
    if b.toNat < 128 then some (128 * acc + b.toNat, rest)
    else readBase128 (128 * acc + (b.toNat - 128)) rest

/-- A tag and what follows it. Numbers from 31 on stand in base 128 behind
the first octet, without leading zeros. -/
def readTag : Bytes → Option (Tag × Bytes)
  | [] => none
  | b :: rest =>
    let cls := TagClass.ofBits (b.toNat / 64)
    let constructed := b.toNat / 32 % 2 == 1
    if b.toNat % 32 < 31 then some (⟨cls, constructed, b.toNat % 32⟩, rest)
    -- a leading zero
    else if rest.head? = some 0x80 then none
    else
      match readBase128 0 rest with
      | some (number, rest) => if number < 31 then none else some (⟨cls, constructed, number⟩, rest)
      | none => none

-- ============================================================= lengths

/-- A length and what follows it; an open length is `none`. -/
def readLength : Bytes → Option (Option Nat × Bytes)
  | [] => none
  | b :: rest =>
    let n := b.toNat
    if n < 128 then some (some n, rest)
    else if n = 128 then some (none, rest)
    else if rest.length < n - 128 then none
    else some (some (Bytes.toNat (rest.take (n - 128))), rest.drop (n - 128))

/-- How many octets a number takes without leading zeros. -/
def octetCount (n : Nat) : Nat :=
  if _stop : n = 0 then 0 else octetCount (n / 256) + 1
termination_by n
decreasing_by omega

/-- The one distinguished form of a length. -/
def writeLength (n : Nat) : Bytes :=
  if n < 128 then [UInt8.ofNat n]
  else UInt8.ofNat (128 + octetCount n) :: Bytes.ofNat (octetCount n) n

-- ============================================================= headers

/-- A header, with the octets it was read from. -/
structure Header where
  tag : Tag
  length : Option Nat
  octets : Bytes
deriving DecidableEq, Repr

/-- A header and what follows it. Only a constructed element may leave its
length open. -/
def Header.read (b : Bytes) : Option (Header × Bytes) :=
  match readTag b with
  | none => none
  | some (tag, afterTag) =>
    match readLength afterTag with
    | none => none
    | some (length, rest) =>
      if length.isNone && !tag.constructed then none
      else some (⟨tag, length, b.take (b.length - rest.length)⟩, rest)

end Pkcs12.Der
