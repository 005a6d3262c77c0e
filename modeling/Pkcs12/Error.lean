/-
Everything that can go wrong, as causes.

# Kinds of errors

Three groups matter to a caller. Faults of the data, of a key or of the
configuration, schemes that are not supported, and failed decryptions are what
the command line reports (`Error.isReportable`). Values that a record's
constructor refuses are an error of their own kind, and so are calls outside a
function's domain: `Misuse` has one cause for each way of calling a function
with values that it is not defined for. Those are mistakes of a program, and
no front end has an answer to them.

# Wording

The wording stands in one place, `Error.message`, and decisions are taken on
the causes, never on the wording. A cause carries what its message shows: a
count and its limit, a length, a text. Failed decryptions have a single cause
without anything to show, since no caller may learn from the message whether
it was the password or the data.
-/
import Pkcs12.Number.Size
import Pkcs12.Text.Encoding
import Pkcs12.Text.Numeral

namespace Pkcs12

-- ============================================== faults of the data

/-- Data that is not in the form it should have. -/
inductive FormatFault where
  /-- A password has characters beyond the basic multilingual plane. -/
  | astralPassword
  /-- The key derivation was asked for fewer than one iteration. -/
  | noIterations
  /-- An iteration count below one. -/
  | iterationsBelowOne (count : Int)
  /-- An iteration count above the configured maximum. -/
  | iterationsAboveLimit (count : Int) (limit : Nat)
  /-- Octets that are no algorithm identifier. -/
  | identifier
  /-- Algorithm parameters that are not exactly one element. -/
  | algorithmParameters
  /-- Algorithm parameters that do not hold a salt and a count. -/
  | schemeParameters
  /-- A salt and a count that decode, but the count is below one. -/
  | schemeCount
  /-- A salt that is given without octets. -/
  | blankSalt
  /-- A count that is given without a number. -/
  | blankCount
  /-- Nothing to decrypt. -/
  | emptyCiphertext
  /-- Ciphertext that does not consist of whole blocks. -/
  | partialBlock
deriving DecidableEq, Repr

/-- Keys that a block cipher does not take. -/
inductive KeyFault where
  /-- No triple DES key has this length. -/
  | tripleDesLength
  /-- Two of the three DES keys coincide, so that two passes cancel. -/
  | degenerate
  /-- No RC2 key has this length. -/
  | rc2Length (length : Nat)
deriving DecidableEq, Repr

-- ============================================ refused record values

/-- The fields of records whose values are checked. -/
inductive Field where
  | maxIterations
  | defaultIterations
  | saltSize
  | defaultFamily
  | algorithm
  | iterations
deriving DecidableEq, Repr

/-- What a refused value fails to be. -/
inductive Demand where
  | atLeast
  | atMost
  | oneOf
  | dottedIdentifier
deriving DecidableEq, Repr

/-- A field and the demand that its value fails. -/
structure Refusal where
  field : Field
  demand : Demand
deriving DecidableEq, Repr

/-- Environment variables that give no settings. -/
inductive ConfigurationFault where
  /-- A text that should be an integer. -/
  | integer (text : Text)
  /-- An integer with too many digits. -/
  | longInteger (digits : Nat)
  /-- Values that the settings refuse. -/
  | refused (refusals : List Refusal)
deriving DecidableEq, Repr

-- ================================================== outside the domain

/-- Calls that a function is not defined for. -/
inductive Misuse where
  /-- A purpose other than key, initial vector and integrity. -/
  | unknownPurpose (purpose : Int)
  /-- Output of negative length. -/
  | negativeLength
  /-- A name with characters that the names of hash functions cannot have. -/
  | hashName
  /-- A hash function that is not known by this name. -/
  | unknownHash
  /-- A digest size that the hash function does not have. -/
  | digestSize (hash : String) (actual : Nat) (expected : Int)
  /-- Hash blocks of negative size. -/
  | negativeHashBlock
  /-- Hash blocks whose octets no number can count. -/
  | wideHashBlock
  /-- Hash blocks that there is no memory for. -/
  | largeHashBlock
  /-- Octets to spread over hash blocks of no size. -/
  | emptyHashBlock
  /-- A padding octet that is none. -/
  | paddingOctet
  /-- Padding to a multiple of nothing. -/
  | paddingToZero
  /-- A block that is not of the cipher's block size. -/
  | blockLength (cipher : String) (size : Nat)
  /-- An initial vector that is not of the cipher's block size. -/
  | initialVector (size : Nat)
  /-- Input to a chain that does not consist of whole blocks. -/
  | partialChunk (size : Nat)
  /-- Operands of an exclusive or that differ in length. -/
  | xorLengths
  /-- A text with surrogates. -/
  | unencodable (place : Unencodable)
  /-- A bit beyond the octets. -/
  | bitIndex
  /-- A bit of an octet whose index takes more than 64 bits. -/
  | wideIndex
  /-- A dotted text that denotes no object identifier. -/
  | objectIdentifier
  /-- Parameters whose octet string is in pieces that do not fit together. -/
  | octetPieces
  /-- A report path with a surrogate. -/
  | surrogateInPath
  /-- A report path with a null character. -/
  | nullInPath
  /-- A report path that is longer than file systems take. -/
  | longPath
  /-- A report path that names a directory. -/
  | directory
  /-- A negative number of test vectors. -/
  | negativeVectors
  /-- A number of test vectors that takes more than 64 bits. -/
  | wideVectors
  /-- A number of test vectors whose outcomes there is no memory for. -/
  | largeVectors (count : Nat)
  /-- A count that is too long to be named in a message. -/
  | longNumeral
  /-- A text that is given without one. -/
  | blankText
  /-- A number of test vectors that is given without one. -/
  | blankVectors
  /-- A number of test vectors that is given without one and announced. -/
  | blankAnnouncement
  /-- A seed that is given without one. -/
  | blankSeed
  /-- A quotient beyond the range of binary64. -/
  | rateOverflow
deriving DecidableEq, Repr

-- ============================================================== errors

/-- An error, by its cause. -/
inductive Error where
  /-- A scheme that is not supported, as it was named. -/
  | unsupported (name : String)
  | format (fault : FormatFault)
  | key (fault : KeyFault)
  | configuration (fault : ConfigurationFault)
  /-- Wrong password, damaged data or bad padding: one cause, because no
  caller may learn which. -/
  | decryption
  | refused (refusals : List Refusal)
  | misuse (fault : Misuse)
deriving DecidableEq, Repr

/-- How many values were refused, in words. -/
def Refusal.count (refusals : List Refusal) : String :=
  let n := refusals.length
  if n = 1 then s!"{n} validation error for Settings"
  else s!"{n} validation errors for Settings"

def FormatFault.message : FormatFault → String
  | .astralPassword => "password contains characters outside the Basic Multilingual Plane"
  | .noIterations => "iteration count must be positive"
  | .iterationsBelowOne count => s!"iteration count must be positive (got {count})"
  | .iterationsAboveLimit count limit =>
    s!"iteration count {count} exceeds the configured maximum of {limit}"
  | .identifier => "malformed AlgorithmIdentifier"
  | .algorithmParameters => "malformed algorithm parameters"
  | .schemeParameters => "malformed PBE parameters"
  | .schemeCount => "invalid PBE parameters: Input should be greater than or equal to 1"
  | .blankSalt => "invalid PBE parameters: Input should be a valid bytes"
  | .blankCount => "invalid PBE parameters: Input should be a valid integer"
  | .emptyCiphertext => "empty encrypted data"
  | .partialBlock => "input is not a multiple of the block size"

def KeyFault.message : KeyFault → String
  | .tripleDesLength => "3DES rejected the derived key: Not a valid TDES key"
  | .degenerate =>
    "3DES rejected the derived key: Triple DES key degenerates to single DES"
  | .rc2Length length =>
    s!"RC2 rejected the derived key: Incorrect ARC2 key length ({length} bytes)"

/-- What is said of numerals that are too long. -/
def longNumeralMessage (detail : String) : String :=
  let limit := s!"Exceeds the limit ({Numeral.maxDigits} digits) for integer string conversion"
  let advice := "use sys.set_int_max_str_digits() to increase the limit"
  s!"{limit}{detail}; {advice}"

/-- The most characters of a refused text that a message repeats, the
quotation mark in front included. -/
def shownLimit : Nat := 200

def ConfigurationFault.message : ConfigurationFault → String
  | .integer text =>
    let shown := String.ofList ((Text.Quoted.render text).toList.take shownLimit)
    s!"invalid configuration: invalid literal for int() with base 10: {shown}"
  | .longInteger digits =>
    let reason := longNumeralMessage s!": value has {digits} digits"
    s!"invalid configuration: {reason}"
  | .refused refusals =>
    let counted := Refusal.count refusals
    s!"invalid configuration: {counted}"

def Misuse.message : Misuse → String
  | .unknownPurpose purpose => s!"Unknown derivation purpose: {purpose}"
  | .negativeLength => "length must be non-negative"
  | .hashName => "name must be a string"
  | .unknownHash => "unsupported hash type"
  | .digestSize hash actual expected =>
    s!"{hash} produces {actual}-byte digests, expected {expected}"
  | .negativeHashBlock => "negative shift count"
  | .wideHashBlock => "too many digits in integer"
  | .largeHashBlock => ""
  | .emptyHashBlock => "integer division or modulo by zero"
  | .paddingOctet => "bytes must be in range(0, 256)"
  | .paddingToZero => "integer modulo by zero"
  | .blockLength cipher size => s!"{cipher} block must be {size} bytes"
  | .initialVector size => s!"IV must be {size} bytes"
  | .partialChunk size => s!"input must be a multiple of {size} bytes"
  | .xorLengths => "xor_bytes length mismatch"
  | .unencodable place => place.message
  | .bitIndex => "bytearray index out of range"
  | .wideIndex => "cannot fit 'int' into an index-sized integer"
  | .objectIdentifier => "not an object identifier"
  | .octetPieces => "octet string in pieces that do not fit together"
  | .surrogateInPath => "surrogate in a path"
  | .nullInPath => "null character in a path"
  | .longPath => "path too long"
  | .directory => "is a directory"
  | .negativeVectors => "negative dimensions are not allowed"
  | .wideVectors => "Maximum allowed dimension exceeded"
  | .largeVectors count =>
    let size := Memory.sizeText count
    s!"Unable to allocate {size} for an array with shape ({count},) and data type int8"
  | .longNumeral => longNumeralMessage ""
  | .blankText => "'list' object has no attribute 'encode'"
  | .blankVectors => "'list' object cannot be interpreted as an integer"
  | .blankAnnouncement => "no number to announce"
  | .blankSeed => "no seed"
  | .rateOverflow => "integer division result too large for a float"

/-- The one message of every failed decryption. -/
def decryptionMessage : String :=
  "decryption failed: wrong password or corrupted data"

def Error.message : Error → String
  | .unsupported name => s!"algorithm {name} is not supported"
  | .format fault => fault.message
  | .key fault => fault.message
  | .configuration fault => fault.message
  | .decryption => decryptionMessage
  | .refused refusals => Refusal.count refusals
  | .misuse fault => fault.message

/-- The word for the kind of an error in logs and failure details. -/
def Error.label : Error → String
  | .unsupported _ => "NotSupportedError"
  | .format _ => "FormatError"
  | .key _ => "ConstructionError"
  | .configuration _ => "ConfigError"
  | .decryption => "DecryptionError"
  | .refused _ => "ValidationError"
  | .misuse .longNumeral => "ValueError"
  | .misuse _ => "Misuse"

/-- Faults of the data or the configuration, which a front end reports.
What remains is an error in how the library is called. -/
def Error.isReportable : Error → Bool
  | .refused _ => false
  | .misuse _ => false
  | _ => true

end Pkcs12
