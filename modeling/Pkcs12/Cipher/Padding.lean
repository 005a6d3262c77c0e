/-
Padding to whole blocks: `p` octets of value `p`, at least one, so that
input of whole blocks gets a further block. The pad length has to be an
octet; a block size of more than 255 therefore leaves some lengths without
a padding. Removing it refuses every deviation in the same way.
-/
import Pkcs12.Bytes
import Pkcs12.Error

namespace Pkcs12.Padding

/-- How many octets have to be added to `length` for a multiple of the
block size. The remainder takes the sign of the block size, so a negative
size yields a negative count. -/
def count (length : Nat) (blockSize : Int) : Int :=
  blockSize - Int.fmod length blockSize

/-- The octets, padded. -/
def pad (data : Bytes) (blockSize : Int) : Except Error Bytes :=
  if blockSize = 0 then .error (.misuse .paddingToZero)
  else
    let p := count data.length blockSize
    if 0 ≤ p ∧ p ≤ 255 then .ok (data ++ List.replicate p.toNat (UInt8.ofNat p.toNat))
    else .error (.misuse .paddingOctet)

/-- The octets without their padding. -/
def unpad (data : Bytes) (blockSize : Int) : Except Error Bytes :=
  match data.getLast? with
  | none => .error .decryption
  | some last =>
    let p := last.toNat
    if p = 0 ∨ blockSize < p then .error .decryption
    else if data.length < p then .error .decryption
    else
      let body := data.length - p
      if data.drop body = List.replicate p last then .ok (data.take body)
      else .error .decryption

end Pkcs12.Padding
