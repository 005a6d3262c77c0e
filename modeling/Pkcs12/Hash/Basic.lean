/-
Hash functions, and what the iterated ones have in common.

A message is closed by a one bit, zeros and its length in bits, and cut into
blocks that are absorbed one after the other; the word size and the number of
octets for the length are all that differs there. A hash function is kept as a
value, since a caller names one. The key derivation asks of it only that its
digests have a fixed positive size, so this is what the type records.
-/
import Pkcs12.Bytes

namespace Pkcs12

/-- A hash function with digests of a fixed size. -/
structure Hash where
  digestSize : Nat
  digest : Bytes → Bytes
  digestSize_pos : 0 < digestSize
  length_digest : ∀ m, (digest m).length = digestSize

namespace Hash

/-- The hash applied `rounds` times. -/
def iterate (h : Hash) : Nat → Bytes → Bytes
  | 0, m => m
  | rounds + 1, m => iterate h rounds (h.digest m)

theorem length_iterate_succ (h : Hash) (rounds : Nat) (m : Bytes) :
    (h.iterate (rounds + 1) m).length = h.digestSize := by
  induction rounds generalizing m with
  | zero => exact h.length_digest m
  | succ rounds ih => exact ih (h.digest m)

-- ============================================================ padding

/-- The octets between the message and its length: a one bit, then zeros
until the whole is a multiple of the block size. -/
def closing (blockSize lengthSize : Nat) (messageLength : Nat) : Bytes :=
  let used := (messageLength + 1 + lengthSize) % blockSize
  0x80 :: List.replicate ((blockSize - used) % blockSize) 0

/-- The blocks that a message is absorbed in, its length in bits written
most significant octet first. -/
def blocks (blockSize lengthSize : Nat) (m : Bytes) : List Bytes :=
  Bytes.chunks blockSize
    (m ++ (closing blockSize lengthSize m.length ++ Bytes.ofNat lengthSize (8 * m.length)))

-- ============================================================== words

/-- Big-endian 32-bit words; octets that fill no word are left out. -/
def words32 : Bytes → List UInt32
  | a :: b :: c :: d :: rest =>
    (a.toUInt32 <<< 24 ||| b.toUInt32 <<< 16 ||| c.toUInt32 <<< 8 ||| d.toUInt32)
      :: words32 rest
  | _ => []

/-- Pairs of 32-bit words as 64-bit words, the upper half first; a word
without a partner is left out. -/
def joinWords : List UInt32 → List UInt64
  | high :: low :: rest => (high.toUInt64 <<< 32 ||| low.toUInt64) :: joinWords rest
  | _ => []

/-- Big-endian 64-bit words; octets that fill no word are left out. -/
def words64 (b : Bytes) : List UInt64 :=
  joinWords (words32 b)

/-- The octets of a 32-bit word, most significant first. -/
def octets32 (w : UInt32) : Bytes :=
  [(w >>> 24).toUInt8, (w >>> 16).toUInt8, (w >>> 8).toUInt8, w.toUInt8]

/-- The octets of a 64-bit word, most significant first. -/
def octets64 (w : UInt64) : Bytes :=
  octets32 (w >>> 32).toUInt32 ++ octets32 w.toUInt32

@[inline] def turnLeft32 (w : UInt32) (count : UInt32) : UInt32 :=
  w <<< count ||| w >>> (32 - count)

@[inline] def turnRight32 (w : UInt32) (count : UInt32) : UInt32 :=
  w >>> count ||| w <<< (32 - count)

@[inline] def turnRight64 (w : UInt64) (count : UInt64) : UInt64 :=
  w >>> count ||| w <<< (64 - count)

end Hash

end Pkcs12
