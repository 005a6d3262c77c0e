/-
Encrypted content: ciphertext together with the identifier that is needed to
reverse it.

# Operations

The content is a state, and `Operation` is all that can be done to it:
encryption and decryption with a password, assignments to its two parts, and
the change of one bit, which the tamper check makes. `perform` is one step.
Encryption replaces the ciphertext when it has succeeded as a whole (`update`),
so a failed one leaves the content as it was; decryption answers and changes
nothing. The identifier is changed by its assignment alone, so what is in the
content may have been encrypted under another one; then decryption does
whatever it does with such data.

# Bits

A bit is an octet and a place in it, by division with a remainder that is
never negative, and a negative octet counts from the end (`Bytes.flipBit`). An
index that takes more than 64 bits is an error of another kind than one that
is out of range.
-/
import Pkcs12.Encryption

namespace Pkcs12

/-- Whether a number has a place among the signed numbers of 64 bits. -/
def fitsWord (n : Int) : Bool :=
  -(2 ^ 63) ≤ n && n < 2 ^ 63

/-- The octets with one bit changed. Bits count from the least significant
of the first octet; a negative number counts octets from the end. -/
def Bytes.flipBit (data : Bytes) (bit : Int) : Except Error Bytes :=
  let octet := Int.fdiv bit 8
  let place := if octet < 0 then octet + data.length else octet
  if ¬ fitsWord octet then .error (.misuse .wideIndex)
  else if 0 ≤ place ∧ place < data.length then
    .ok (data.modify place.toNat (· ^^^ (1 <<< UInt8.ofNat (Int.fmod bit 8).toNat)))
  else .error (.misuse .bitIndex)

/-- Ciphertext with its identifier. Without data given there are none. -/
structure EncryptedContent where
  algorithm : Identifier
  data : Bytes := []
deriving DecidableEq, Repr

namespace EncryptedContent

/-- What can be done with encrypted content. -/
inductive Operation where
  | encrypt (plaintext password : Bytes)
  | decrypt (password : Bytes)
  | setAlgorithm (algorithm : Identifier)
  | setData (data : Bytes)
  | flipBit (bit : Int)

/-- Replaces the data by those of a computation, if it succeeds. -/
def update (c : EncryptedContent) (data : Except Error Bytes) :
    Except Error (Option Bytes) × EncryptedContent :=
  match data with
  | .ok data => (.ok none, { c with data })
  | .error e => (.error e, c)

/-- One operation: its answer, which is a plaintext or nothing, and the
content afterwards. -/
def perform (settings : Settings.Source) (c : EncryptedContent) :
    Operation → Except Error (Option Bytes) × EncryptedContent
  | .encrypt plaintext password =>
    c.update (Pkcs12.encrypt settings c.algorithm password plaintext)
  | .decrypt password =>
    ((Pkcs12.decrypt settings c.algorithm password c.data).map some, c)
  | .setAlgorithm algorithm => (.ok none, { c with algorithm })
  | .setData data => (.ok none, { c with data })
  | .flipBit bit => c.update (Bytes.flipBit c.data bit)

end EncryptedContent

end Pkcs12
