/-
Triple DES: encryption under the first key, decryption under the second,
encryption under the third.

A key of two parts uses the first one again as the third. Keys of which two
neighbouring parts coincide are refused, because two of the passes would
cancel; the parity bit of each octet counts neither there nor in the cipher.
Decryption is the same three passes from the last to the first, each with its
round keys in reverse order.
-/
import Pkcs12.Cipher.Block
import Pkcs12.Cipher.Des

namespace Pkcs12.TripleDes

/-- The three parts of a key of 16 or 24 octets. -/
def parts? (key : Bytes) : Option (Bytes × Bytes × Bytes) :=
  if key.length = 24 then
    some (key.take 8, (key.drop 8).take 8, key.drop 16)
  else if key.length = 16 then
    some (key.take 8, key.drop 8, key.take 8)
  else none

/-- A key without its parity bits, the lowest bit of every octet. -/
def withoutParity (key : Bytes) : Bytes :=
  key.map (· &&& 0xFE)

/-- Whether two neighbouring passes would cancel. -/
def degenerate (k₁ k₂ k₃ : Bytes) : Bool :=
  withoutParity k₁ == withoutParity k₂ || withoutParity k₂ == withoutParity k₃

/-- The cipher under three parts. -/
def keyed (k₁ k₂ k₃ : Bytes) : BlockCipher :=
  let r₁ := Des.roundKeys (Bits.ofBytes k₁)
  let r₂ := Des.roundKeys (Bits.ofBytes k₂)
  let r₃ := Des.roundKeys (Bits.ofBytes k₃)
  { name := "3DES"
    blockSize := 8
    blockSize_pos := BlockCipher.eight_pos
    forward := fun b =>
      Bits.toBytes (Des.crypt r₃ (Des.crypt r₂.reverse (Des.crypt r₁ (Bits.ofBytes b))))
    backward := fun b =>
      Bits.toBytes (Des.crypt r₁.reverse (Des.crypt r₂ (Des.crypt r₃.reverse (Bits.ofBytes b)))) }

/-- The cipher under an admissible key. -/
def new (key : Bytes) : Except Error BlockCipher :=
  match parts? key with
  | none => .error (.key .tripleDesLength)
  | some (k₁, k₂, k₃) =>
    if degenerate k₁ k₂ k₃ then .error (.key .degenerate) else .ok (keyed k₁ k₂ k₃)

end Pkcs12.TripleDes
