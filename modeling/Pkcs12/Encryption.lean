/-
Password-based encryption and decryption.

# From an identifier to a cipher

The identifier names the scheme and carries salt and count; key and initial
vector are derived from them and the password, over SHA-1 (`Secrets.derive`),
and the key makes the cipher. `cipherFor` is all of that, and it is where the
operations can fail that have nothing to do with the data. The order is the
scheme, the parameters, the settings, the count, the key; the same error comes
of it whether something is to be encrypted or decrypted.

# From a cipher to a message

To encrypt is to pad and to chain, and once there is a cipher nothing can go
wrong. To decrypt is to chain back and to remove the padding, and only then
are the data looked at: nothing to decrypt and parts of blocks are faults of
the data, while everything about the padding is the one error of a failed
decryption, so that nobody can tell a wrong password from damaged data.
-/
import Pkcs12.Algorithm
import Pkcs12.Cipher.Chaining
import Pkcs12.Cipher.Padding
import Pkcs12.KeyStream
import Pkcs12.Password

namespace Pkcs12

-- ============================================================ derivation

namespace Derivation

/-- The octets of a hash block of SHA-1. -/
def hashBlock : Nat := 64

/-- The error for a count that is not allowed. It names the count, unless
that is too long. -/
def countError (iterations : Int) (fault : FormatFault) : Error :=
  if iterations.natAbs < Numeral.bound then .format fault else .misuse .longNumeral

/-- An iteration count is one that the settings allow, or there is an error. Count
and settings are consulted for the key and again for the initial vector. -/
def checkIterations (settings : Settings.Source) (iterations : Int) : Except Error Unit := do
  let s ← settings
  if iterations < 1 then throw (countError iterations (.iterationsBelowOne iterations))
  else if (s.maxIterations : Int) < iterations then
    throw (countError iterations (.iterationsAboveLimit iterations s.maxIterations))
  else return ()

/-- The string of a given length for a purpose, over SHA-1. -/
def derived (purpose : Purpose) (length : Nat) (salt password : Bytes) (iterations : Int) : Bytes :=
  KeyStream.derive Hash.sha1 hashBlock salt password iterations.toNat purpose length

/-- The key of a scheme, for a count that the settings allow. -/
def key (settings : Settings.Source) (scheme : Scheme) (salt password : Bytes) (iterations : Int) :
    Except Error Bytes := do
  checkIterations settings iterations
  return derived .key scheme.keyLength salt password iterations

/-- The initial vector of a scheme, for a count that the settings allow. -/
def iv (settings : Settings.Source) (scheme : Scheme) (salt password : Bytes) (iterations : Int) :
    Except Error Bytes := do
  checkIterations settings iterations
  return derived .iv scheme.ivLength salt password iterations

end Derivation

/-- A derived key and initial vector. -/
structure Secrets where
  key : Bytes
  iv : Bytes
deriving DecidableEq, Repr

namespace Secrets

/-- The secrets of a scheme: first the key, then the initial vector. -/
def derive (settings : Settings.Source) (scheme : Scheme) (salt password : Bytes)
    (iterations : Int) : Except Error Secrets := do
  let key ← Derivation.key settings scheme salt password iterations
  let iv ← Derivation.iv settings scheme salt password iterations
  return ⟨key, iv⟩

/-- What is left of secrets after use: zeros of the same lengths. -/
def erased (s : Secrets) : Secrets :=
  ⟨List.replicate s.key.length 0, List.replicate s.iv.length 0⟩

end Secrets

-- ================================================================ ciphers

/-- The keyed cipher and the initial vector that an identifier and a
password determine. -/
def cipherFor (settings : Settings.Source) (a : Identifier) (password : Bytes) :
    Except Error (BlockCipher × Bytes) := do
  let scheme ← a.scheme
  let p ← SchemeParameters.ofDer a.parameters
  let secrets ← Secrets.derive settings scheme p.salt password p.iterations
  let cipher ← scheme.cipher secrets.key
  return (cipher, secrets.iv)

/-- A fresh chain in one direction. -/
def chainFor (settings : Settings.Source) (direction : Direction) (a : Identifier)
    (password : Bytes) : Except Error Chain := do
  let (cipher, iv) ← cipherFor settings a password
  Chain.start direction cipher iv

-- ===================================================== whole messages

/-- The ciphertext of a plaintext. -/
def encrypt (settings : Settings.Source) (a : Identifier) (password plaintext : Bytes) :
    Except Error Bytes := do
  let chain ← chainFor settings .encrypt a password
  let padded ← Padding.pad plaintext chain.cipher.blockSize
  let (ciphertext, _) ← chain.crypt padded
  return ciphertext

/-- The plaintext of a ciphertext. -/
def decrypt (settings : Settings.Source) (a : Identifier) (password ciphertext : Bytes) :
    Except Error Bytes := do
  let chain ← chainFor settings .decrypt a password
  -- with a cipher, these are the faults that the data may have
  if ciphertext.isEmpty then throw (.format .emptyCiphertext)
  else if ciphertext.length % chain.cipher.blockSize ≠ 0 then throw (.format .partialBlock)
  else
    let (padded, _) ← chain.crypt ciphertext
    Padding.unpad padded chain.cipher.blockSize

end Pkcs12
