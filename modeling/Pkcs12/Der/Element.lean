/-
Encoded elements.

# Measuring

Where an open element ends is found by measuring the elements inside it, and
those inside them if they are open too, at most ten levels down; the contents
of an element with a length are not looked into. So the measure of an element
depends on that of its contents and the other way round. Here the measure of
inner elements is an argument of `contentsSize`, which leaves a recursion on
the number of levels.

# Reading

An element is a header and its contents, an end marker left out. The levels
are counted afresh for every element that is read, so for each member of a
sequence as well: that one may be nested as deeply as the whole.

Two recursions go along the octets, to the end marker of an open element and to
the end of a sequence. Both have fuel, and each step takes at least one octet,
so the number of octets is enough of it.
-/
import Pkcs12.Der.Header

namespace Pkcs12.Der

-- ============================================================ measuring

/-- How many levels of open elements may be nested. -/
def maxNesting : Nat := 10

/-- How many octets lie before the end marker, given a measure for the
elements on the way. Every element takes at least two octets, so the length
of the octets is fuel enough. -/
def untilEnd (size : Bytes → Option Nat) : Nat → Bytes → Option Nat
  | _, 0 :: 0 :: _ => some 0
  | 0, _ => none
  | fuel + 1, b =>
    match size b with
    | none => none
    | some n => (untilEnd size fuel (b.drop n)).map (n + ·)

/-- How many octets the contents behind a header take, not counting an end
marker, given a measure for the elements of an open one. -/
def contentsSize (size : Bytes → Option Nat) (h : Header) (rest : Bytes) : Option Nat :=
  match h.length with
  | some n => if n ≤ rest.length then some n else none
  | none => untilEnd size rest.length rest

/-- How many octets mark the end of an element. -/
def Header.markerSize (h : Header) : Nat :=
  if h.length.isNone then 2 else 0

/-- How many octets the first element takes, with at most `nesting` further
levels of open elements in it. -/
def elementSize (nesting : Nat) (b : Bytes) : Option Nat :=
  match Header.read b with
  | none => none
  | some (h, rest) =>
    -- on the last level an open element has no end
    let inner :=
      match nesting with
      | 0 => fun _ => none
      | deeper + 1 => elementSize deeper
    (contentsSize inner h rest).map (h.octets.length + · + h.markerSize)

-- ============================================================= reading

/-- An element: its header and its contents, an end marker left out. -/
structure Element where
  header : Header
  contents : Bytes
deriving DecidableEq, Repr

namespace Element

def tag (e : Element) : Tag := e.header.tag

def isOpen (e : Element) : Bool := e.header.length.isNone

/-- The octets of the element as it was read. -/
def octets (e : Element) : Bytes :=
  e.header.octets ++ e.contents ++ List.replicate e.header.markerSize 0

/-- The first element and what follows it. -/
def read (b : Bytes) : Option (Element × Bytes) :=
  match Header.read b with
  | none => none
  | some (h, rest) =>
    match contentsSize (elementSize (maxNesting - 1)) h rest with
    | none => none
    | some n => some (⟨h, rest.take n⟩, rest.drop (n + h.markerSize))

/-- The one element that takes up all octets. -/
def readOnly (b : Bytes) : Option Element :=
  match read b with
  | some (e, []) => some e
  | _ => none

/-- The elements that follow one another to the end of the octets. Each
takes at least one octet, so the length is fuel enough. -/
def readMembers : Nat → Bytes → Option (List Element)
  | _, [] => some []
  | 0, _ => none
  | fuel + 1, b =>
    match read b with
    | none => none
    | some (e, rest) => (readMembers fuel rest).map (e :: ·)

def members (e : Element) : Option (List Element) :=
  readMembers e.contents.length e.contents

end Element

-- ============================================================= writing

/-- The distinguished form of an element whose tag number is below 31. -/
def write (tag : Tag) (contents : Bytes) : Bytes :=
  tag.octet :: (writeLength contents.length ++ contents)

/-- A sequence of elements that are already written. -/
def writeSequence (members : List Bytes) : Bytes :=
  write .sequence members.flatten

end Pkcs12.Der
