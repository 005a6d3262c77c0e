/-
Block ciphers under a fixed key.

The two directions are total functions on octet strings and mean something on
blocks of the right size only; the checked entry points refuse all others.
That the directions undo each other is a property stated apart
(`IsPermutation`), to be proved of each cipher and assumed by the laws of
chaining. It is no field of the structure: a cipher is made where it is used,
and to make one nothing should have to be proved.
-/
import Pkcs12.Bytes
import Pkcs12.Error

namespace Pkcs12

/-- A block cipher under a key. -/
structure BlockCipher where
  name : String
  blockSize : Nat
  blockSize_pos : 0 < blockSize
  forward : Bytes → Bytes
  backward : Bytes → Bytes

namespace BlockCipher

/-- Blocks of eight octets are not empty. -/
theorem eight_pos : 0 < 8 := by decide

/-- One block encrypted; anything but a block is refused. -/
def encryptBlock (c : BlockCipher) (block : Bytes) : Except Error Bytes :=
  if block.length = c.blockSize then .ok (c.forward block)
  else .error (.misuse (.blockLength c.name c.blockSize))

/-- One block decrypted; anything but a block is refused. -/
def decryptBlock (c : BlockCipher) (block : Bytes) : Except Error Bytes :=
  if block.length = c.blockSize then .ok (c.backward block)
  else .error (.misuse (.blockLength c.name c.blockSize))

/-- Both directions send blocks to blocks and undo each other. -/
structure IsPermutation (c : BlockCipher) : Prop where
  length_forward : ∀ b : Bytes, b.length = c.blockSize → (c.forward b).length = c.blockSize
  length_backward : ∀ b : Bytes, b.length = c.blockSize → (c.backward b).length = c.blockSize
  backward_forward : ∀ b : Bytes, b.length = c.blockSize → c.backward (c.forward b) = b
  forward_backward : ∀ b : Bytes, b.length = c.blockSize → c.forward (c.backward b) = b

end BlockCipher

end Pkcs12
