/-
Damage to a ciphertext: what decryption makes of two ciphertexts of one
length that differ in a single block.

# Two blocks and no more

The plaintext block at a position is made of the ciphertext block there and of
the one before it, and of nothing else (`block_decrypted`). So a change to
ciphertext block `j` can reach the plaintext in two places only:

- in block `j`, where it passes through the cipher. A permutation keeps
  different blocks different, so the plaintext blocks differ, though nothing
  is said of how (`block_decrypted_ne`);
- in block `j + 1`, where it is added as it stands. There the plaintext blocks
  differ in just the bits in which the damaged blocks do
  (`xor_block_decrypted_succ`).

All other blocks agree (`block_decrypted_of_ne`).

# How it is proved

The only induction is the one that reads a block of the recursion by its
position (`getElem?_decryptBlocks`); it is stated with `List.getD` on the
initial vector and the ciphertext in one list, since there the block chained
to has a position like every other. The three laws are then comparisons of
two instances of `block_decrypted`, under assumptions which the section
`Damage` states once for all of them. The hypothesis that the blocks agree
elsewhere is one about all positions, those beyond the end included, where
both strings have the empty block.
-/
import Pkcs12.Proofs.Cipher.Chaining

namespace Pkcs12

-- ======================================================= exclusive or

namespace Bytes

variable {a b c : Bytes}

/-- What both operands contain cancels. This is the law behind the damage to the
next block: the part that comes out of the cipher is the same on both sides. -/
private theorem xor_xor_xor (hb : b.length = a.length) (hc : c.length = a.length) :
    xor (xor a b) (xor a c) = xor b c := by
  induction a generalizing b c with
  | nil =>
      rw [List.eq_nil_of_length_eq_zero hb]
      rfl
  | cons x a ih =>
      obtain ⟨y, b, rfl⟩ := List.exists_cons_of_length_eq_add_one hb
      obtain ⟨z, c, rfl⟩ := List.exists_cons_of_length_eq_add_one hc
      -- per octet: reassociate until the two copies of x stand side by side
      have hhead : x ^^^ y ^^^ (x ^^^ z) = y ^^^ z := by
        rw [UInt8.xor_comm x y, UInt8.xor_assoc, ← UInt8.xor_assoc x x z, UInt8.xor_self,
          UInt8.zero_xor]
      have htail : xor (xor a b) (xor a c) = xor b c :=
        ih (by simpa using hb) (by simpa using hc)
      simp only [xor, List.zipWith_cons_cons, hhead] at htail ⊢
      rw [htail]

private theorem xor_right_inj (ha : a.length = c.length) (hb : b.length = c.length) :
    xor a c = xor b c ↔ a = b := by
  constructor
  · intro h
    rw [← xor_xor_cancel ha, h, xor_xor_cancel hb]
  · intro h
    rw [h]

end Bytes

namespace Chaining

-- ================================================= blocks by position

/-- The block that block `i` of a ciphertext is chained to. -/
def chained (n : Nat) (iv y : Bytes) : Nat → Bytes
  | 0 => iv
  | i + 1 => Bytes.block n i y

/-- A block of the recursion by its position. With the block chained to at first
in front of the ciphertext, block `i` is chained to entry `i` of that list. -/
private theorem getElem?_decryptBlocks (c : BlockCipher) (previous : Bytes) (blocks : List Bytes)
    (i : Nat) :
    (decryptBlocks c previous blocks)[i]?
      = blocks[i]?.map fun b => Bytes.xor (c.backward b) ((previous :: blocks).getD i []) := by
  induction blocks generalizing previous i with
  | nil => rfl
  | cons b blocks ih =>
      cases i with
      | zero => rfl
      | succ i =>
          rw [decryptBlocks, List.getElem?_cons_succ, List.getElem?_cons_succ, ih,
            List.getD_cons_succ]

variable {c : BlockCipher} {iv x y : Bytes} {i j : Nat}

private theorem length_chained (hiv : iv.length = c.blockSize) (hy : y.length % c.blockSize = 0)
    (hi : c.blockSize * i < y.length) : (chained c.blockSize iv y i).length = c.blockSize := by
  cases i with
  | zero => exact hiv
  | succ i =>
      rw [Nat.mul_succ] at hi
      exact Bytes.length_block hy (by omega)

/-- A plaintext block is made of two ciphertext blocks: the one in its place,
taken back through the cipher, and the one before. -/
theorem block_decrypted (hc : c.IsPermutation) (hiv : iv.length = c.blockSize)
    (hy : y.length % c.blockSize = 0) (hi : c.blockSize * i < y.length) :
    Bytes.block c.blockSize i (decrypted c iv y)
      = Bytes.xor (c.backward (Bytes.block c.blockSize i y)) (chained c.blockSize iv y i) := by
  have hn := c.blockSize_ne_zero
  have hblocks := length_of_mem_decryptBlocks hc hiv (Bytes.length_of_mem_chunks hy)
  have hlen : c.blockSize * i < (decrypted c iv y).length := by
    rw [length_decrypted hc hiv hy]
    exact hi
  have hchained : (iv :: Bytes.chunks c.blockSize y).getD i [] = chained c.blockSize iv y i := by
    cases i with
    | zero => rfl
    | succ i =>
        rw [Nat.mul_succ] at hi
        rw [List.getD_cons_succ, List.getD_eq_getElem?_getD,
          Bytes.getElem?_chunks hn (by omega), Option.getD_some]
        rfl
  -- read one block of the joined result off the list of results
  have hat := Bytes.getElem?_chunks hn hlen
  unfold decrypted at hat ⊢
  rw [Bytes.chunks_flatten hn hblocks, getElem?_decryptBlocks, Bytes.getElem?_chunks hn hi,
    Option.map_some, hchained] at hat
  exact (Option.some.inj hat).symm

-- ==================================================== one block differs

section Damage

variable (hother : ∀ i, i ≠ j → Bytes.block c.blockSize i x = Bytes.block c.blockSize i y)
include hother

private theorem chained_of_ne (hi : i ≠ j + 1) :
    chained c.blockSize iv x i = chained c.blockSize iv y i := by
  cases i with
  | zero => rfl
  | succ i => exact hother i (by omega)

variable (hc : c.IsPermutation) (hiv : iv.length = c.blockSize)
  (hx : x.length % c.blockSize = 0) (hy : y.length % c.blockSize = 0)
  (hxy : y.length = x.length)
include hc hiv hx hy hxy

/-- All plaintext blocks but two agree. -/
theorem block_decrypted_of_ne (hi : i ≠ j) (hnext : i ≠ j + 1) :
    Bytes.block c.blockSize i (decrypted c iv x)
      = Bytes.block c.blockSize i (decrypted c iv y) := by
  -- within the text both blocks are made of equal ciphertext blocks; beyond
  -- its end both are empty
  rcases Nat.lt_or_ge (c.blockSize * i) x.length with hin | hbeyond
  · rw [block_decrypted hc hiv hx hin, block_decrypted hc hiv hy (by rw [hxy]; exact hin),
      hother i hi, chained_of_ne hother hnext]
  · rw [Bytes.block_of_length_le (by rw [length_decrypted hc hiv hx]; exact hbeyond),
      Bytes.block_of_length_le (by rw [length_decrypted hc hiv hy, hxy]; exact hbeyond)]

/-- Different blocks remain different in the cipher. Both plaintext blocks are
chained to the same octets, so equal ones would make the ciphertext blocks
equal, as images of equal blocks under the cipher. -/
theorem block_decrypted_ne
    (hdiffer : Bytes.block c.blockSize j x ≠ Bytes.block c.blockSize j y) :
    Bytes.block c.blockSize j (decrypted c iv x)
      ≠ Bytes.block c.blockSize j (decrypted c iv y) := by
  have hin := Bytes.lt_length_of_block_ne hxy hdiffer
  have hiny : c.blockSize * j < y.length := by rw [hxy]; exact hin
  have hbx := Bytes.length_block hx hin
  have hby := Bytes.length_block hy hiny
  have hch := length_chained hiv hy hiny
  rw [block_decrypted hc hiv hx hin, block_decrypted hc hiv hy hiny,
    chained_of_ne hother (Nat.ne_of_lt (Nat.lt_succ_self j))]
  intro hsame
  rw [Bytes.xor_right_inj (by rw [hc.length_backward _ hbx, hch])
    (by rw [hc.length_backward _ hby, hch])] at hsame
  apply hdiffer
  rw [← hc.forward_backward _ hbx, hsame, hc.forward_backward _ hby]

/-- The next plaintext blocks differ as the damaged blocks do: bit for bit, since
these are added to equal octets. -/
theorem xor_block_decrypted_succ (hnext : c.blockSize * (j + 1) < x.length) :
    Bytes.xor (Bytes.block c.blockSize (j + 1) (decrypted c iv x))
        (Bytes.block c.blockSize (j + 1) (decrypted c iv y))
      = Bytes.xor (Bytes.block c.blockSize j x) (Bytes.block c.blockSize j y) := by
  have hnexty : c.blockSize * (j + 1) < y.length := by rw [hxy]; exact hnext
  have hback := hc.length_backward _ (Bytes.length_block hy hnexty)
  have hjx : (Bytes.block c.blockSize j x).length = c.blockSize :=
    length_chained (i := j + 1) hiv hx hnext
  have hjy : (Bytes.block c.blockSize j y).length = c.blockSize :=
    length_chained (i := j + 1) hiv hy hnexty
  rw [block_decrypted hc hiv hx hnext, block_decrypted hc hiv hy hnexty,
    hother (j + 1) (Nat.succ_ne_self j)]
  exact Bytes.xor_xor_xor (by rw [hback]; exact hjx) (by rw [hback]; exact hjy)

end Damage

end Chaining

end Pkcs12
