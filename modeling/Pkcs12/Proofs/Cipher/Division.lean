/-
Chains over a series of calls: how a text is divided into chunks makes no
difference to the octets that come out, nor to the block that is held at the
end.

# One call

A chain treats whole blocks one after the other, so a chunk of whole blocks
may be cut between two blocks anywhere: the first part leaves behind just the
block that the second part is chained to. That is `encryptBlocks_append` and
`decryptBlocks_append` for blocks, `outputs_append` and `past_append` for
chains, and `Ready.crypt_append` for calls. The chunk in front has to be of
whole blocks; the one behind need not be, since the call on both fails just
when the call on the rest does, and for the same reason.

# A series of calls

A call on a chunk that is not of whole blocks is refused and leaves the chain
as it was (`step_of_not_mod`). So a refused chunk drops out of the series,
and `Bytes.whole`, the chunks of whole blocks, joined, is all that a series
can depend on. `Ready.crypt_whole` says that it depends on that and no more:
a series of calls amounts to one call on `whole`. The induction is on the
chunks, with the chain generalised; a chunk is either taken, and
`crypt_append` puts it in front of the rest, or refused, and both sides drop
it. Readiness of the chain is what the induction hypothesis asks for, and
`Ready.step` hands it on.

# What is held at the end

`previous_after` reads the block held after a series off its octets: the last
block of the ciphertext, or the initial vector if there was none. Encryption
meets the ciphertext as its output, decryption as its input, and
`Direction.ciphertext` names the right one of the two.
-/
import Pkcs12.Proofs.Cipher.Chaining

namespace Pkcs12

-- ====================================================== octet strings

namespace Bytes

/-- The chunks that consist of whole blocks of `n` octets, joined. -/
def whole (n : Nat) (chunks : List Bytes) : Bytes :=
  (chunks.filter fun chunk => chunk.length % n = 0).flatten

/-- The last `n` octets, or a stand-in if there are no octets. -/
def lastBlock (n : Nat) (standIn x : Bytes) : Bytes :=
  if x = [] then standIn else x.drop (x.length - n)

variable {n : Nat}

private theorem whole_cons_of_mod {chunk : Bytes} (h : chunk.length % n = 0) (chunks : List Bytes) :
    whole n (chunk :: chunks) = chunk ++ whole n chunks := by
  unfold whole
  rw [List.filter_cons_of_pos (by simpa using h), List.flatten_cons]

private theorem whole_cons_of_not_mod {chunk : Bytes} (h : chunk.length % n ≠ 0)
    (chunks : List Bytes) :
    whole n (chunk :: chunks) = whole n chunks := by
  unfold whole
  rw [List.filter_cons_of_neg (by simpa using h)]

/-- What is joined is of whole blocks again, so that the series can be compared
with one call that is not refused. -/
theorem length_whole_mod (n : Nat) (chunks : List Bytes) : (whole n chunks).length % n = 0 := by
  induction chunks with
  | nil => exact Nat.zero_mod n
  | cons chunk chunks ih =>
      by_cases h : chunk.length % n = 0
      · rw [whole_cons_of_mod h, List.length_append, Nat.add_mod, h, ih, Nat.zero_mod]
      · rw [whole_cons_of_not_mod h]
        exact ih

/-- The last block of joined blocks is the last of them. This is where octets
meet blocks: a chain holds a block of a list, the law speaks of a string. -/
private theorem lastBlock_flatten (hn : n ≠ 0) {blocks : List Bytes}
    (hb : ∀ b ∈ blocks, b.length = n)
    (standIn : Bytes) : lastBlock n standIn blocks.flatten = blocks.getLastD standIn := by
  rcases List.eq_nil_or_concat blocks with rfl | ⟨front, b, rfl⟩
  · rfl
  · have hlast : b.length = n := hb b (by simp)
    have hjoined : (front ++ [b]).flatten = front.flatten ++ b := by simp
    -- a joined list that ends in a block is not empty, which is the case
    -- distinction of lastBlock
    have hne : front.flatten ++ b ≠ [] := by
      intro hnil
      have hlen := congrArg List.length hnil
      simp only [List.length_append, List.length_nil] at hlen
      omega
    rw [List.concat_eq_append, List.getLastD_concat, hjoined]
    unfold lastBlock
    rw [if_neg hne, List.length_append, hlast, Nat.add_sub_cancel, List.drop_left]

end Bytes

-- ============================================================ blocks

namespace Chaining

variable (c : BlockCipher) (previous : Bytes) (front rest : List Bytes)

/-- Blocks may be cut anywhere: those behind are chained to the last block that
those in front were turned into. -/
theorem encryptBlocks_append :
    encryptBlocks c previous (front ++ rest)
      = encryptBlocks c previous front
        ++ encryptBlocks c ((encryptBlocks c previous front).getLastD previous) rest := by
  induction front generalizing previous with
  | nil => rfl
  | cons b front ih =>
      rw [List.cons_append, encryptBlocks, encryptBlocks, ih, List.getLastD_cons,
        List.cons_append]

/-- For decryption too, but chained to the last block of the front itself, which
is the ciphertext. -/
theorem decryptBlocks_append :
    decryptBlocks c previous (front ++ rest)
      = decryptBlocks c previous front ++ decryptBlocks c (front.getLastD previous) rest := by
  induction front generalizing previous with
  | nil => rfl
  | cons b front ih =>
      rw [List.cons_append, decryptBlocks, decryptBlocks, ih, List.getLastD_cons,
        List.cons_append]

end Chaining

-- ========================================================== one call

namespace Chain

/-- Blocks of a chain may be cut anywhere, in one statement for both directions:
what is remembered of the front is the chain past it. -/
theorem outputs_append (c : Chain) (front rest : List Bytes) :
    c.outputs (front ++ rest) = c.outputs front ++ (c.past front).outputs rest := by
  obtain ⟨direction, cipher, previous⟩ := c
  cases direction with
  | encrypt => exact Chaining.encryptBlocks_append cipher previous front rest
  | decrypt => exact Chaining.decryptBlocks_append cipher previous front rest

/-- The chain past two lists of blocks is the one past the second, taken up where
the first left off. -/
theorem past_append (c : Chain) (front rest : List Bytes) :
    c.past (front ++ rest) = (c.past front).past rest := by
  -- what is held is the last of a list, with the block held before as a
  -- stand-in; for a joined list the stand-ins nest
  have hlast (held : Bytes) (xs ys : List Bytes) :
      (xs ++ ys).getLastD held = ys.getLastD (xs.getLastD held) := by
    rw [List.getLastD_eq_getLast?, List.getLastD_eq_getLast?, List.getLastD_eq_getLast?,
      List.getLast?_append]
    cases ys.getLast? <;> rfl
  have houtputs := outputs_append c front rest
  obtain ⟨direction, cipher, previous⟩ := c
  cases direction with
  | encrypt =>
      show Chain.mk _ _ ((Chain.outputs _ (front ++ rest)).getLastD previous) = _
      rw [houtputs, hlast]
      rfl
  | decrypt =>
      show Chain.mk _ _ ((front ++ rest).getLastD previous) = _
      rw [hlast]
      rfl

variable {c : Chain} {chunk : Bytes}

/-- Two chunks one after the other are one chunk. The second may be of any
length: if it is refused, the two together are refused with it. -/
theorem Ready.crypt_append (hc : c.Ready) (h : chunk.length % c.cipher.blockSize = 0)
    {out : Bytes} {next : Chain} (hcrypt : c.crypt chunk = .ok (out, next)) (rest : Bytes) :
    c.crypt (chunk ++ rest) = (next.crypt rest).map fun r => (out ++ r.1, r.2) := by
  have hlen : (chunk ++ rest).length % c.cipher.blockSize = rest.length % c.cipher.blockSize := by
    rw [List.length_append, Nat.add_mod, h, Nat.zero_add, Nat.mod_mod]
  have hready := hc.past (Bytes.length_of_mem_chunks h)
  rw [hc.crypt_of_mod h] at hcrypt
  cases hcrypt
  -- whether the whole is refused depends on the rest alone, since the front
  -- has a multiple of the block size
  by_cases hrest : rest.length % c.cipher.blockSize = 0
  · have hnext : rest.length % (c.past (Bytes.chunks c.cipher.blockSize chunk)).cipher.blockSize
        = 0 := hrest
    rw [hc.crypt_of_mod (by rw [hlen]; exact hrest), hready.crypt_of_mod hnext,
      Bytes.chunks_whole_append c.cipher.blockSize_ne_zero h, outputs_append, past_append,
      List.flatten_append]
    rfl
  · have hnext : rest.length % (c.past (Bytes.chunks c.cipher.blockSize chunk)).cipher.blockSize
        ≠ 0 := hrest
    rw [crypt_of_not_mod (by rw [hlen]; exact hrest), crypt_of_not_mod hnext]
    rfl

theorem Ready.step_of_mod (hc : c.Ready) (h : chunk.length % c.cipher.blockSize = 0) :
    c.step chunk
      = (.ok (c.outputs (Bytes.chunks c.cipher.blockSize chunk)).flatten,
          c.past (Bytes.chunks c.cipher.blockSize chunk)) := by
  unfold step
  rw [hc.crypt_of_mod h]

/-- A call that is refused leaves the chain as it was. -/
theorem step_of_not_mod (h : chunk.length % c.cipher.blockSize ≠ 0) :
    c.step chunk = (.error (.misuse (.partialChunk c.cipher.blockSize)), c) := by
  unfold step
  rw [crypt_of_not_mod h]

/-- A call keeps the cipher, and leaves a chain that is ready for the
next. -/
theorem Ready.step (hc : c.Ready) (chunk : Bytes) :
    (c.step chunk).2.Ready ∧ (c.step chunk).2.cipher = c.cipher := by
  by_cases h : chunk.length % c.cipher.blockSize = 0
  · rw [hc.step_of_mod h]
    exact ⟨hc.past (Bytes.length_of_mem_chunks h), rfl⟩
  · rw [step_of_not_mod h]
    exact ⟨hc, rfl⟩

-- ==================================================== a series of calls

/-- The chain after a series of calls. -/
def after (c : Chain) (chunks : List Bytes) : Chain :=
  chunks.foldl (fun c chunk => (c.step chunk).2) c

/-- What a series of calls puts out, joined. -/
def produced (c : Chain) (chunks : List Bytes) : Bytes :=
  ((c.feed chunks).filterMap fun call => call.1.toOption).flatten

theorem Ready.after (hc : c.Ready) (chunks : List Bytes) :
    (c.after chunks).Ready ∧ (c.after chunks).cipher = c.cipher := by
  induction chunks generalizing c with
  | nil => exact ⟨hc, rfl⟩
  | cons chunk chunks ih =>
      obtain ⟨hready, hcipher⟩ := hc.step chunk
      obtain ⟨hready', hcipher'⟩ := ih hready
      exact ⟨hready', hcipher'.trans hcipher⟩

theorem after_concat (c : Chain) (chunks : List Bytes) (chunk : Bytes) :
    c.after (chunks ++ [chunk]) = ((c.after chunks).step chunk).2 := by
  unfold after
  rw [List.foldl_append, List.foldl_cons, List.foldl_nil]

private theorem Ready.produced_cons_of_mod (hc : c.Ready)
    (h : chunk.length % c.cipher.blockSize = 0)
    (chunks : List Bytes) :
    c.produced (chunk :: chunks)
      = (c.outputs (Bytes.chunks c.cipher.blockSize chunk)).flatten
        ++ (c.step chunk).2.produced chunks := by
  unfold produced
  rw [feed, hc.step_of_mod h]
  rfl

private theorem produced_cons_of_not_mod (h : chunk.length % c.cipher.blockSize ≠ 0)
    (chunks : List Bytes) : c.produced (chunk :: chunks) = c.produced chunks := by
  unfold produced
  rw [feed, step_of_not_mod h]
  rfl

/-- A series of calls amounts to one call on its chunks of whole blocks, joined,
whatever was refused in between. This is the run lemma of the file; what
follows only reads it. -/
theorem Ready.crypt_whole (hc : c.Ready) (chunks : List Bytes) :
    c.crypt (Bytes.whole c.cipher.blockSize chunks) = .ok (c.produced chunks, c.after chunks) := by
  induction chunks generalizing c with
  | nil =>
      have hnil : ([] : Bytes).length % c.cipher.blockSize = 0 := Nat.zero_mod _
      show c.crypt [] = .ok ([], c)
      rw [hc.crypt_of_mod hnil, Bytes.chunks_nil]
      obtain ⟨direction, cipher, previous⟩ := c
      cases direction <;> rfl
  | cons chunk chunks ih =>
      -- a chunk is taken or refused: the first goes in front of the rest by the
      -- law for two chunks, the second drops out of both sides
      by_cases h : chunk.length % c.cipher.blockSize = 0
      · obtain ⟨hready, hcipher⟩ := hc.step chunk
        have hrest := ih hready
        rw [hcipher] at hrest
        have hnext : c.crypt chunk
            = .ok ((c.outputs (Bytes.chunks c.cipher.blockSize chunk)).flatten,
                (c.step chunk).2) := by
          rw [hc.crypt_of_mod h, hc.step_of_mod h]
        rw [Bytes.whole_cons_of_mod h, hc.crypt_append h hnext, hrest, hc.produced_cons_of_mod h]
        rfl
      · have hafter : c.after (chunk :: chunks) = c.after chunks := by
          show Chain.after (c.step chunk).2 chunks = _
          rw [step_of_not_mod h]
        rw [Bytes.whole_cons_of_not_mod h, produced_cons_of_not_mod h, hafter]
        exact ih hc

/-- Output and chain of a series, read off the blocks of its chunks. -/
theorem Ready.series_eq (hc : c.Ready) (chunks : List Bytes) :
    c.produced chunks
        = (c.outputs (Bytes.chunks c.cipher.blockSize
            (Bytes.whole c.cipher.blockSize chunks))).flatten
      ∧ c.after chunks
        = c.past (Bytes.chunks c.cipher.blockSize (Bytes.whole c.cipher.blockSize chunks)) := by
  have hcrypt := hc.crypt_whole chunks
  rw [hc.crypt_of_mod (Bytes.length_whole_mod c.cipher.blockSize chunks)] at hcrypt
  injection hcrypt with hpair
  injection hpair with hout hafter
  exact ⟨hout.symm, hafter.symm⟩

end Chain

-- ======================================================== directions

namespace Direction

def opposite : Direction → Direction
  | .encrypt => .decrypt
  | .decrypt => .encrypt

/-- Which of input and output is the ciphertext. -/
def ciphertext (direction : Direction) (input output : Bytes) : Bytes :=
  match direction with
  | .encrypt => output
  | .decrypt => input

theorem ciphertext_opposite (direction : Direction) (input output : Bytes) :
    direction.opposite.ciphertext output input = direction.ciphertext input output := by
  cases direction <;> rfl

/-- A string of whole blocks, taken through a fresh chain. -/
def through : Direction → BlockCipher → Bytes → Bytes → Bytes
  | .encrypt => Chaining.encrypted
  | .decrypt => Chaining.decrypted

variable {c : BlockCipher} {iv x : Bytes} {direction : Direction}

private theorem outputs_flatten (direction : Direction) (c : BlockCipher) (iv x : Bytes) :
    ((Chain.mk direction c iv).outputs (Bytes.chunks c.blockSize x)).flatten
      = direction.through c iv x := by
  cases direction <;> rfl

/-- A string of whole blocks, taken through a fresh chain and then through one of
the opposite direction, comes back. -/
theorem through_opposite (hc : c.IsPermutation) (hiv : iv.length = c.blockSize)
    (hx : x.length % c.blockSize = 0) :
    direction.opposite.through c iv (direction.through c iv x) = x := by
  cases direction with
  | encrypt => exact Chaining.decrypted_encrypted hc hiv hx
  | decrypt => exact Chaining.encrypted_decrypted hc hiv hx

end Direction

namespace Chain

variable {c : BlockCipher} {iv : Bytes} {direction : Direction}

/-- The octets of a whole series are those of one fresh chain on the joined
chunks, so they do not depend on the division. -/
theorem produced_eq (hc : (Chain.mk direction c iv).Ready) (chunks : List Bytes) :
    (Chain.mk direction c iv).produced chunks
      = direction.through c iv (Bytes.whole c.blockSize chunks) := by
  rw [(hc.series_eq chunks).1, Direction.outputs_flatten]

/-- The block held after a series of calls is the last block of ciphertext,
or the initial vector if there was none. -/
theorem previous_after (hc : (Chain.mk direction c iv).Ready) (chunks : List Bytes) :
    ((Chain.mk direction c iv).after chunks).previous
      = Bytes.lastBlock c.blockSize iv
          (direction.ciphertext (Bytes.whole c.blockSize chunks)
            ((Chain.mk direction c iv).produced chunks)) := by
  have hn := c.blockSize_ne_zero
  have hblocks := Bytes.length_of_mem_chunks (Bytes.length_whole_mod c.blockSize chunks)
  rw [(hc.series_eq chunks).2, produced_eq hc]
  -- encryption holds an output, decryption an input: the first is the last
  -- block of what was put out, the second of what was put in
  cases direction with
  | encrypt =>
      exact (Bytes.lastBlock_flatten hn
        (Chaining.length_of_mem_encryptBlocks hc.isPermutation hc.length_previous hblocks) iv).symm
  | decrypt =>
      have hlast := Bytes.lastBlock_flatten hn hblocks iv
      rw [Bytes.flatten_chunks hn] at hlast
      exact hlast.symm

end Chain

end Pkcs12
