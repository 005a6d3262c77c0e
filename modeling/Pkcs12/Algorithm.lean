/-
Algorithm identifiers and the parameters of password-based schemes, with
their encoded forms:

    AlgorithmIdentifier ::= SEQUENCE {
        algorithm   OBJECT IDENTIFIER,
        parameters  ANY DEFINED BY algorithm OPTIONAL }

    SchemeParameters ::= SEQUENCE {
        salt        OCTET STRING,
        iterations  INTEGER }

# Values and their encoded forms

An `Identifier` has a name that is a dotted object identifier, and
`SchemeParameters` have a count of at least one. Both facts are fields, so no
value lacks them; who makes a value has to say what becomes of one that would.
For an identifier there is one answer, a refusal of the record. For
parameters there are two: a caller that gives a count below one is refused as
for any record (`new`), while a count that was read makes the octets
malformed (`fromData`). `Identifier.ofDer` has only the first kind of answer
for a name, and an encoded identifier may have one that is not dotted.

# Parameters as they are kept

Parameters that an identifier carries stay encoded. They are kept as they
were read, except that an element whose header ends in the octet for an open
length is put into distinguished form on its outermost level
(`parameterOctets?`). What lies inside is left as it is. The same happens
when an identifier is written, since its parameters may have come from
elsewhere than a reading.

# Reading

Reading follows the two definitions above, with two liberties: members that a
sequence has beyond those named are not looked at, although they have to be
elements, and an element that is named by its tag may be encoded in any of the
ways that `Der` reads.
-/
import Pkcs12.Der.ObjectIdentifier
import Pkcs12.Der.Primitive
import Pkcs12.Settings

namespace Pkcs12

open Der

-- ========================================================== identifiers

/-- An algorithm identifier: a dotted object identifier and encoded
parameters, empty when there are none. -/
structure Identifier where
  algorithm : String
  parameters : Bytes
  dotted : isDotted (Text.ofString algorithm) = true
deriving DecidableEq, Repr

namespace Identifier

/-- The string without the white space at its ends. -/
def stripped (s : String) : String :=
  let kept := fun (cs : List Char) => cs.dropWhile fun c => (CodePoint.ofChar c).isBlank
  String.ofList (kept (kept s.toList).reverse).reverse

/-- The identifier with this algorithm, white space around it aside. A name
that is not dotted is refused. -/
def new (algorithm : String) (parameters : Bytes) : Except Error Identifier :=
  if h : isDotted (Text.ofString (stripped algorithm)) then
    .ok ⟨stripped algorithm, parameters, h⟩
  else .error (.refused [⟨.algorithm, .dottedIdentifier⟩])

-- ========================================================== parameters

/-- Elements that parameters may be: those whose tag number is assigned to a type.
The marker for an end has number zero and is none of them. -/
def mayBeParameters (e : Element) : Bool :=
  let n := e.tag.number
  (1 ≤ n && n ≤ 13) || (16 ≤ n && n ≤ 30)

/-- The octets that stand for a parameters element. One whose header ends
in the octet for an open length gets a new header: a sequence around the
contents as they are, an octet string around its joined pieces. -/
def parameterOctets? (e : Element) : Option Bytes :=
  -- the last octet of a header is 0x80 for an open length, and for some others
  if e.header.octets.getLast? ≠ some 0x80 then some e.octets
  else if e.tag.number = 16 then some (write e.tag e.contents)
  else if e.tag.number = 4 then
    (readOctets e).map fun octets =>
      write { e.tag with constructed := e.tag.constructed && !e.isOpen } octets
  else some e.octets

-- ======================================================== encoded form

/-- The algorithm and the parameters in an encoded identifier. Members
after the second are not looked at but have to be elements. -/
def parts? (der : Bytes) : Option (String × Bytes) := do
  let outer ← Element.readOnly der
  guard (outer.tag = .sequence)
  match ← outer.members with
  | [] => none
  | first :: rest =>
    guard (first.tag = .objectIdentifier)
    let algorithm ← readDotted? first.contents
    match rest with
    | [] => return (algorithm, [])
    | second :: _ =>
      guard (mayBeParameters second)
      return (algorithm, ← parameterOctets? second)

/-- The identifier that octets encode. That they are one but for the name is
not found out before the identifier is made, and then refused as for any
other. -/
def ofDer (der : Bytes) : Except Error Identifier :=
  match parts? der with
  | none => .error (.format .identifier)
  | some (algorithm, parameters) => new algorithm parameters

/-- The parameters as the second member of the encoded form: none when they
are empty, and otherwise exactly one element. -/
def parameterElement (a : Identifier) : Except Error (Option Element) :=
  if a.parameters.isEmpty then .ok none
  else
    match Element.readOnly a.parameters with
    | some e => if mayBeParameters e then .ok (some e) else .error (.format .algorithmParameters)
    | none => .error (.format .algorithmParameters)

/-- The encoded form of an identifier. -/
def toDer (a : Identifier) : Except Error Bytes := do
  -- the parameters are examined before the name is
  let element ← a.parameterElement
  let contents ←
    match writeDotted? (Text.ofString a.algorithm) with
    | some contents => Except.ok contents
    | none => .error (.misuse .objectIdentifier)
  let parameters ←
    match element with
    | none => Except.ok []
    | some e =>
      match parameterOctets? e with
      | some octets => Except.ok octets
      | none => .error (.misuse .octetPieces)
  return writeSequence [write .objectIdentifier contents, parameters]

end Identifier

def Identifier.scheme (a : Identifier) : Except Error Scheme :=
  Scheme.resolve a.algorithm

-- =================================================== scheme parameters

/-- A salt and an iteration count. -/
@[ext]
structure SchemeParameters where
  salt : Bytes
  iterations : Nat
  iterations_pos : 1 ≤ iterations
deriving Repr

instance : DecidableEq SchemeParameters := fun _ _ =>
  decidable_of_decidable_of_iff SchemeParameters.ext_iff.symm

namespace SchemeParameters

/-- The parameters with these values, if the count is at least one. -/
def new? (salt : Bytes) (iterations : Int) : Option SchemeParameters :=
  if h : 1 ≤ iterations then some ⟨salt, iterations.toNat, by omega⟩ else none

/-- The parameters with these values; a count below one is refused. -/
def new (salt : Bytes) (iterations : Int) : Except Error SchemeParameters :=
  match new? salt iterations with
  | some p => .ok p
  | none => .error (.refused [⟨.iterations, .atLeast⟩])

/-- The parameters with these values; a count below one is a fault of the
data they come from. -/
def fromData (salt : Bytes) (iterations : Int) : Except Error SchemeParameters :=
  match new? salt iterations with
  | some p => .ok p
  | none => .error (.format .schemeCount)

/-- The encoded form of parameters. -/
def toDer (p : SchemeParameters) : Bytes :=
  writeSequence [write .octetString p.salt, write .integer (writeNat p.iterations)]

/-- The salt and the count in encoded parameters. Members after the second
are not looked at but have to be elements. -/
def parts? (der : Bytes) : Option (Bytes × Int) := do
  let outer ← Element.readOnly der
  guard (outer.tag = .sequence)
  match ← outer.members with
  | salt :: iterations :: _ =>
    guard (isOctetString salt)
    guard (iterations.tag = .integer)
    return (← readOctets salt, readInt iterations.contents)
  | _ => none

/-- The parameters that octets encode. -/
def ofDer (der : Bytes) : Except Error SchemeParameters :=
  match parts? der with
  | none => .error (.format .schemeParameters)
  | some (salt, iterations) => fromData salt iterations

end SchemeParameters

-- ====================================================== new identifiers

/-- A source of random octets: so many of them on demand. -/
abbrev RandomOctets := Nat → Bytes

/-- An identifier for encryption under a scheme. Without a salt one is
drawn in the configured size, and without a count the configured one is
used. -/
def Identifier.forEncryption (settings : Settings.Source) (random : RandomOctets) (family : String)
    (salt : Option Bytes) (iterations : Option Int) : Except Error Identifier := do
  let s ← settings
  let scheme ← Scheme.byName family
  let salt := salt.getD (random s.saltSize)
  let p ← SchemeParameters.fromData salt (iterations.getD s.defaultIterations)
  Identifier.new scheme.identifier p.toDer

end Pkcs12
