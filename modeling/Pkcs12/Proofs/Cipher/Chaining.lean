/-
Chaining under a permutation: the loop that checks every block never fails
a check, decryption undoes encryption, and encryption undoes decryption, over
any number of blocks.

# Two loops, and why both

The loop of the model (`encryptChecked`, `decryptChecked`) tests the lengths
of both sides of every exclusive or and of every block handed to the cipher,
and could stop at any of them. Nothing about the octets can be read off a
loop that may stop, so this file first shows that it never does: on blocks,
from a block, under a permutation, it returns what the plain recursions
`encryptBlocks` and `decryptBlocks` compute (`encryptChecked_eq`,
`decryptChecked_eq`). All later files work with the plain recursions, and
only `Chain.Ready.crypt_of_mod` crosses back to the loop.

# The invariant

Every induction here is on the list of blocks, with the block chained to
generalised, and carries one invariant: the block chained to is a block. It
is the initial vector at first and a ciphertext block from then on. The two
directions meet that ciphertext block on different sides, as the output of
encryption and as the input of decryption, and stay in step for just that
reason: either way the next block is chained to the same octets.

# From blocks to chains

- `encrypted` and `decrypted` are the recursions on octet strings of whole
  blocks, cut and joined again; their lengths and inverses follow from the
  laws of `Bytes.chunks`.
- `Chain.Ready` is the invariant as a property of a chain. Chains are started
  ready, and `Ready.past` says that whole blocks leave them ready, so that a
  series of calls (`Proofs/Cipher/Division`) needs no other fact about the
  loop.
-/
import Pkcs12.Cipher.Chaining
import Pkcs12.Proofs.Bytes.Chunks
import Pkcs12.Proofs.Outcome

namespace Pkcs12

open Outcome (ok_bind)

namespace Bytes

/-- The exclusive or with the same string twice changes nothing. -/
theorem xor_xor_cancel {a b : Bytes} (h : a.length = b.length) : xor (xor a b) b = a := by
  induction a generalizing b with
  | nil => rfl
  | cons x a ih =>
      cases b with
      | nil => simp at h
      | cons y b =>
          have hx : x ^^^ y ^^^ y = x := by
            rw [UInt8.xor_assoc, UInt8.xor_self, UInt8.xor_zero]
          have htail : xor (xor a b) b = a := ih (by simpa using h)
          simp only [xor, List.zipWith_cons_cons, hx] at htail ⊢
          rw [htail]

end Bytes

theorem BlockCipher.blockSize_ne_zero (c : BlockCipher) : c.blockSize ≠ 0 :=
  Nat.ne_of_gt c.blockSize_pos

namespace Chaining

-- ============================================================ the loop

/-- The ciphertext blocks of plaintext blocks, for a cipher that takes
everything for a block. -/
def encryptBlocks (c : BlockCipher) (previous : Bytes) : List Bytes → List Bytes
  | [] => []
  | block :: rest =>
    let out := c.forward (Bytes.xor block previous)
    out :: encryptBlocks c out rest

/-- The plaintext blocks of ciphertext blocks, for such a cipher. -/
def decryptBlocks (c : BlockCipher) (previous : Bytes) : List Bytes → List Bytes
  | [] => []
  | block :: rest => Bytes.xor (c.backward block) previous :: decryptBlocks c block rest

variable {c : BlockCipher} {previous : Bytes} {blocks : List Bytes}

/-- What is handed to the cipher is a block: the exclusive or of two blocks has
their common length. -/
private theorem length_xor_block {b : Bytes} (hb : b.length = c.blockSize)
    (hprev : previous.length = c.blockSize) : (Bytes.xor b previous).length = c.blockSize := by
  rw [Bytes.length_xor (by rw [hb, hprev]), hb]

private theorem xorEqual_of_length {a b : Bytes} (h : a.length = b.length) :
    xorEqual a b = .ok (Bytes.xor a b) := by
  unfold xorEqual
  rw [if_pos h]

/-- Under a permutation no check of the loop fails, so that the loop is the
recursion without checks: the block chained to is a block at first, and the
cipher makes the next one of it. -/
theorem encryptChecked_eq (hc : c.IsPermutation) (hprev : previous.length = c.blockSize)
    (hb : ∀ b ∈ blocks, b.length = c.blockSize) :
    encryptChecked c previous blocks = .ok (encryptBlocks c previous blocks) := by
  induction blocks generalizing previous with
  | nil => rfl
  | cons b blocks ih =>
      have hblock := hb b (List.mem_cons_self ..)
      have hin := length_xor_block hblock hprev
      have hrest := ih (hc.length_forward _ hin) fun x hx => hb x (List.mem_cons_of_mem _ hx)
      have hout : c.encryptBlock (Bytes.xor b previous) = .ok (c.forward (Bytes.xor b previous)) :=
        if_pos hin
      -- the three checks in the order of the loop: the exclusive or, the block
      -- handed to the cipher, and the rest of the loop from the new block
      rw [encryptChecked, xorEqual_of_length (by rw [hblock, hprev]), ok_bind, hout, ok_bind,
        hrest]
      rfl

/-- Nor does a check of the loop that decrypts, which is chained to the block it
was given before: that one is a block because it was among the inputs, and
the permutation is needed only for what the cipher gives back. -/
theorem decryptChecked_eq (hc : c.IsPermutation) (hprev : previous.length = c.blockSize)
    (hb : ∀ b ∈ blocks, b.length = c.blockSize) :
    decryptChecked c previous blocks = .ok (decryptBlocks c previous blocks) := by
  induction blocks generalizing previous with
  | nil => rfl
  | cons b blocks ih =>
      have hblock := hb b (List.mem_cons_self ..)
      have hback := hc.length_backward b hblock
      have hrest := ih hblock fun x hx => hb x (List.mem_cons_of_mem _ hx)
      have hout : c.decryptBlock b = .ok (c.backward b) := if_pos hblock
      rw [decryptChecked, hout, ok_bind, xorEqual_of_length (by rw [hback, hprev]), ok_bind,
        hrest]
      rfl

-- =========================================================== lengths

theorem length_encryptBlocks (c : BlockCipher) (previous : Bytes) (blocks : List Bytes) :
    (encryptBlocks c previous blocks).length = blocks.length := by
  induction blocks generalizing previous with
  | nil => rfl
  | cons b blocks ih => rw [encryptBlocks, List.length_cons, ih, List.length_cons]

theorem length_decryptBlocks (c : BlockCipher) (previous : Bytes) (blocks : List Bytes) :
    (decryptBlocks c previous blocks).length = blocks.length := by
  induction blocks generalizing previous with
  | nil => rfl
  | cons b blocks ih => rw [decryptBlocks, List.length_cons, ih, List.length_cons]

/-- Encryption makes blocks of blocks. Both hypotheses are needed: the first
block put out is as long as the initial vector and the first block are. -/
theorem length_of_mem_encryptBlocks (hc : c.IsPermutation)
    (hprev : previous.length = c.blockSize) (hb : ∀ b ∈ blocks, b.length = c.blockSize) :
    ∀ y ∈ encryptBlocks c previous blocks, y.length = c.blockSize := by
  induction blocks generalizing previous with
  | nil =>
      intro y hy
      cases hy
  | cons b blocks ih =>
      have hout := hc.length_forward _ (length_xor_block (hb b (List.mem_cons_self ..)) hprev)
      intro y hy
      rcases List.mem_cons.mp hy with rfl | hy
      · exact hout
      · exact ih hout (fun x hx => hb x (List.mem_cons_of_mem _ hx)) y hy

/-- Decryption makes blocks of blocks; what it is chained to next is a block that
was given, so no fact about the cipher is carried along. -/
theorem length_of_mem_decryptBlocks (hc : c.IsPermutation)
    (hprev : previous.length = c.blockSize) (hb : ∀ b ∈ blocks, b.length = c.blockSize) :
    ∀ y ∈ decryptBlocks c previous blocks, y.length = c.blockSize := by
  induction blocks generalizing previous with
  | nil =>
      intro y hy
      cases hy
  | cons b blocks ih =>
      have hblock := hb b (List.mem_cons_self ..)
      intro y hy
      rcases List.mem_cons.mp hy with rfl | hy
      · exact length_xor_block (hc.length_backward b hblock) hprev
      · exact ih hblock (fun x hx => hb x (List.mem_cons_of_mem _ hx)) y hy

-- =========================================================== inverses

/-- Decryption undoes encryption: the ciphertext block that encryption chains to
next is the one decryption has just been given. -/
theorem decryptBlocks_encryptBlocks (hc : c.IsPermutation)
    (hprev : previous.length = c.blockSize) (hb : ∀ b ∈ blocks, b.length = c.blockSize) :
    decryptBlocks c previous (encryptBlocks c previous blocks) = blocks := by
  induction blocks generalizing previous with
  | nil => rfl
  | cons b blocks ih =>
      have hblock := hb b (List.mem_cons_self ..)
      have hin := length_xor_block hblock hprev
      -- cipher and exclusive or cancel in the first block, and both recursions
      -- go on chained to its ciphertext
      rw [encryptBlocks, decryptBlocks, hc.backward_forward _ hin,
        Bytes.xor_xor_cancel (by rw [hblock, hprev]),
        ih (hc.length_forward _ hin) fun x hx => hb x (List.mem_cons_of_mem _ hx)]

/-- Encryption undoes decryption, on every list of blocks and not only on those
that encryption made: the cipher is a permutation in both orders. -/
theorem encryptBlocks_decryptBlocks (hc : c.IsPermutation)
    (hprev : previous.length = c.blockSize) (hb : ∀ b ∈ blocks, b.length = c.blockSize) :
    encryptBlocks c previous (decryptBlocks c previous blocks) = blocks := by
  induction blocks generalizing previous with
  | nil => rfl
  | cons b blocks ih =>
      have hblock := hb b (List.mem_cons_self ..)
      have hback := hc.length_backward b hblock
      rw [decryptBlocks, encryptBlocks, Bytes.xor_xor_cancel (by rw [hback, hprev]),
        hc.forward_backward b hblock,
        ih hblock fun x hx => hb x (List.mem_cons_of_mem _ hx)]

-- ====================================================== octet strings

/-- A string of whole blocks, encrypted from an initial vector on. -/
def encrypted (c : BlockCipher) (iv x : Bytes) : Bytes :=
  (encryptBlocks c iv (Bytes.chunks c.blockSize x)).flatten

/-- A string of whole blocks, decrypted from an initial vector on. -/
def decrypted (c : BlockCipher) (iv y : Bytes) : Bytes :=
  (decryptBlocks c iv (Bytes.chunks c.blockSize y)).flatten

variable {iv x : Bytes}

theorem length_encrypted (hc : c.IsPermutation) (hiv : iv.length = c.blockSize)
    (hx : x.length % c.blockSize = 0) : (encrypted c iv x).length = x.length := by
  rw [encrypted, Bytes.length_flatten_of_pieces (length_of_mem_encryptBlocks hc hiv
    (Bytes.length_of_mem_chunks hx)), length_encryptBlocks,
    Bytes.length_chunks c.blockSize_ne_zero hx]

theorem length_decrypted (hc : c.IsPermutation) (hiv : iv.length = c.blockSize)
    (hx : x.length % c.blockSize = 0) : (decrypted c iv x).length = x.length := by
  rw [decrypted, Bytes.length_flatten_of_pieces (length_of_mem_decryptBlocks hc hiv
    (Bytes.length_of_mem_chunks hx)), length_decryptBlocks,
    Bytes.length_chunks c.blockSize_ne_zero hx]

theorem decrypted_encrypted (hc : c.IsPermutation) (hiv : iv.length = c.blockSize)
    (hx : x.length % c.blockSize = 0) : decrypted c iv (encrypted c iv x) = x := by
  have hne := c.blockSize_ne_zero
  have hb := Bytes.length_of_mem_chunks hx
  rw [decrypted, encrypted, Bytes.chunks_flatten hne (length_of_mem_encryptBlocks hc hiv hb),
    decryptBlocks_encryptBlocks hc hiv hb, Bytes.flatten_chunks hne]

theorem encrypted_decrypted (hc : c.IsPermutation) (hiv : iv.length = c.blockSize)
    (hx : x.length % c.blockSize = 0) : encrypted c iv (decrypted c iv x) = x := by
  have hne := c.blockSize_ne_zero
  have hb := Bytes.length_of_mem_chunks hx
  -- cutting the joined blocks gives them back, as each is a block
  rw [encrypted, decrypted, Bytes.chunks_flatten hne (length_of_mem_decryptBlocks hc hiv hb),
    encryptBlocks_decryptBlocks hc hiv hb, Bytes.flatten_chunks hne]

end Chaining

-- ============================================================ chains

namespace Chain

/-- The output blocks for input blocks, for a cipher that takes everything
for a block. -/
def outputs (c : Chain) (blocks : List Bytes) : List Bytes :=
  match c.direction with
  | .encrypt => Chaining.encryptBlocks c.cipher c.previous blocks
  | .decrypt => Chaining.decryptBlocks c.cipher c.previous blocks

/-- The chain after whole blocks. -/
def past (c : Chain) (blocks : List Bytes) : Chain :=
  { c with previous := c.heldAfter blocks (c.outputs blocks) }

/-- A chain whose cipher permutes blocks and which holds a block. Chains are
started so, and whole blocks leave them so (`Ready.past`); that is all the
checks of the loop ask for. -/
structure Ready (c : Chain) : Prop where
  isPermutation : c.cipher.IsPermutation
  length_previous : c.previous.length = c.cipher.blockSize

variable {c : Chain} {chunk : Bytes} {blocks : List Bytes}

/-- On blocks a ready chain returns its outputs, whichever its direction. -/
theorem Ready.cryptBlocks_eq (h : c.Ready) (hb : ∀ b ∈ blocks, b.length = c.cipher.blockSize) :
    c.cryptBlocks blocks = .ok (c.outputs blocks) := by
  obtain ⟨direction, cipher, previous⟩ := c
  cases direction with
  | encrypt => exact Chaining.encryptChecked_eq h.isPermutation h.length_previous hb
  | decrypt => exact Chaining.decryptChecked_eq h.isPermutation h.length_previous hb

/-- A chunk of whole blocks is taken in one call: the outputs of its blocks,
joined, and the chain past them. -/
theorem Ready.crypt_of_mod (h : c.Ready) (hchunk : chunk.length % c.cipher.blockSize = 0) :
    c.crypt chunk
      = .ok ((c.outputs (Bytes.chunks c.cipher.blockSize chunk)).flatten,
          c.past (Bytes.chunks c.cipher.blockSize chunk)) := by
  unfold crypt
  rw [if_pos hchunk]
  simp only [h.cryptBlocks_eq (Bytes.length_of_mem_chunks hchunk), ok_bind]
  rfl

theorem crypt_of_not_mod (h : chunk.length % c.cipher.blockSize ≠ 0) :
    c.crypt chunk = .error (.misuse (.partialChunk c.cipher.blockSize)) := by
  unfold crypt
  rw [if_neg h]

/-- A chain is still ready past whole blocks. The block it then holds is the last
ciphertext block, if there is any: an output of encryption, an input of
decryption. -/
theorem Ready.past (h : c.Ready) (hb : ∀ b ∈ blocks, b.length = c.cipher.blockSize) :
    (c.past blocks).Ready := by
  -- the last block of a list of blocks is a block, and so is what stands in
  -- for it when there is none; the two directions differ in the list only
  have hlast {standIn : Bytes} {xs : List Bytes} (hstandIn : standIn.length = c.cipher.blockSize)
      (hxs : ∀ x ∈ xs, x.length = c.cipher.blockSize) :
      (xs.getLastD standIn).length = c.cipher.blockSize := by
    rcases List.eq_nil_or_concat xs with rfl | ⟨front, x, rfl⟩
    · exact hstandIn
    · rw [List.concat_eq_append, List.getLastD_concat]
      exact hxs x (by simp)
  refine ⟨h.isPermutation, ?_⟩
  obtain ⟨direction, cipher, previous⟩ := c
  cases direction with
  | encrypt =>
      exact hlast h.length_previous
        (Chaining.length_of_mem_encryptBlocks h.isPermutation h.length_previous hb)
  | decrypt => exact hlast h.length_previous hb

end Chain

end Pkcs12
