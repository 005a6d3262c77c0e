/-
A chain may be fed in any division of its input, and the chain of an
identifier and a password encrypts so.

# From series to operations

`Proofs/Cipher/Division` has the laws for a chain that is ready: a series of
chunks is answered as its whole blocks joined, a refused chunk changes
nothing, and the opposite chain gives the input back and holds the same block
at the end. A fresh chain under a permutation is ready, so the laws apply to
every chain that can be started.

Encryption pads a plaintext and takes it through such a chain in one call. By
the laws it could as well be taken through in any division of the padded form
(`encrypt_eq_produced`), including one with refused chunks in between. Where
there is no cipher there is no chain, and both sides fail with the same error.
-/
import Pkcs12.Proofs.Cipher.Division
import Pkcs12.Proofs.Encryption.Keyed

namespace Pkcs12

/-- The chain of an identifier and a password encrypts the padded plaintext
in any division. -/
private theorem encrypt_eq_produced (settings : Settings.Source) (a : Identifier)
    (password plaintext : Bytes) {chunks : List Bytes}
    (hchunks : Bytes.whole 8 chunks = Padding.padded plaintext) :
    encrypt settings a password plaintext
      = (chainFor settings .encrypt a password).map fun chain => chain.produced chunks := by
  cases h : cipherFor settings a password with
  | error e =>
      rw [encrypt_of_error h, chainFor, h]
      rfl
  | ok keyed =>
      obtain ⟨c, iv⟩ := keyed
      obtain ⟨-, hsize, -⟩ := isPermutation_of_cipherFor h
      -- what the series puts out depends on the joined chunks only
      have hproduced : (Chain.mk .encrypt c iv).produced chunks
          = Chaining.encrypted c iv (Padding.padded plaintext) := by
        rw [Chain.produced_eq (ready_of_cipherFor h .encrypt), hsize, hchunks]
        rfl
      rw [encrypt_of_ok h, chainFor_of_ok h, ← hproduced]
      rfl

/-- Chains may be fed in any division of their input. For a permutation of
blocks, an initial vector and a series of chunks: a chunk that is not whole
blocks is refused and leaves the chain as it is; all others are answered,
and their answers, joined, are the answer of a fresh chain to the chunks
joined, which is left with the same block, the last one of ciphertext; and
the opposite chain turns the output, in any other division, into the input
again and ends with that block too. The chain of an identifier and a
password thus encrypts a padded plaintext in any division, and fails where
encryption fails. -/
theorem fed_in_any_division :
    (∀ (c : BlockCipher) (iv : Bytes) (direction : Direction) (chunks : List Bytes),
      c.IsPermutation → iv.length = c.blockSize →
      ∃ chain opposite : Chain,
        Chain.start direction c iv = .ok chain
        ∧ Chain.start direction.opposite c iv = .ok opposite
        ∧ (∀ before chunk, chunk.length % c.blockSize ≠ 0 →
            (chain.after before).step chunk
              = (.error (.misuse (.partialChunk c.blockSize)), chain.after before))
        ∧ (∀ before chunk, chunk.length % c.blockSize = 0 →
            ∃ out, (chain.after before).step chunk = (.ok out, chain.after (before ++ [chunk])))
        ∧ chain.crypt (Bytes.whole c.blockSize chunks)
            = .ok (chain.produced chunks, chain.after chunks)
        ∧ (chain.after chunks).previous
            = Bytes.lastBlock c.blockSize iv
                (direction.ciphertext (Bytes.whole c.blockSize chunks) (chain.produced chunks))
        ∧ ∀ others, Bytes.whole c.blockSize others = chain.produced chunks →
            opposite.produced others = Bytes.whole c.blockSize chunks
            ∧ (opposite.after others).previous = (chain.after chunks).previous)
    ∧ ∀ (settings : Settings.Source) (a : Identifier) (password plaintext : Bytes),
      ∃ padded, Padding.pad plaintext 8 = .ok padded
        ∧ ∀ chunks, Bytes.whole 8 chunks = padded →
          encrypt settings a password plaintext
            = (chainFor settings .encrypt a password).map fun chain => chain.produced chunks := by
  constructor
  · intro c iv direction chunks hc hiv
    have hstart (d : Direction) : Chain.start d c iv = .ok ⟨d, c, iv⟩ := by
      unfold Chain.start
      rw [if_pos hiv]
    have hready (d : Direction) : (Chain.mk d c iv).Ready := ⟨hc, hiv⟩
    refine ⟨_, _, hstart direction, hstart direction.opposite, ?refused, ?answered,
      (hready direction).crypt_whole chunks, Chain.previous_after (hready direction) chunks,
      ?opposite⟩
    case refused =>
      intro before chunk hpartial
      obtain ⟨-, hcipher⟩ := (hready direction).after before
      rw [Chain.step_of_not_mod (by rw [hcipher]; exact hpartial), hcipher]
    case answered =>
      intro before chunk hwhole
      obtain ⟨hstill, hcipher⟩ := (hready direction).after before
      rw [Chain.after_concat, hstill.step_of_mod (by rw [hcipher]; exact hwhole)]
      exact ⟨_, rfl⟩
    case opposite =>
      intro others hothers
      have hback : (Chain.mk direction.opposite c iv).produced others
          = Bytes.whole c.blockSize chunks := by
        rw [Chain.produced_eq (hready _), hothers, Chain.produced_eq (hready _),
          Direction.through_opposite hc hiv (Bytes.length_whole_mod c.blockSize chunks)]
      refine ⟨hback, ?_⟩
      rw [Chain.previous_after (hready _), Chain.previous_after (hready _), hback, hothers,
        Direction.ciphertext_opposite]
  · intro settings a password plaintext
    exact ⟨_, Padding.pad_eight plaintext, fun chunks hchunks =>
      encrypt_eq_produced settings a password plaintext hchunks⟩

/-- RC2 under a key of five octets decrypts three blocks that come as one
block, a chunk of one octet, which is refused, an empty chunk and two
blocks. -/
theorem fed_in_any_division_rc2 :
    (Rc2.keyed [1, 2, 3, 4, 5]).IsPermutation
      ∧ (List.replicate 8 0 : Bytes).length = (Rc2.keyed [1, 2, 3, 4, 5]).blockSize
      ∧ ∃ chain, Chain.start .decrypt (Rc2.keyed [1, 2, 3, 4, 5]) (List.replicate 8 0) = .ok chain
          ∧ chain.crypt (List.replicate 8 1 ++ List.replicate 16 2)
            = .ok (chain.produced
                  [List.replicate 8 1, [9], [], List.replicate 16 2],
                chain.after [List.replicate 8 1, [9], [], List.replicate 16 2])
          ∧ (chain.after [List.replicate 8 1]).step [9]
            = (.error (.misuse (.partialChunk 8)), chain.after [List.replicate 8 1])
          ∧ (chain.after [List.replicate 8 1, [9], [], List.replicate 16 2]).previous
            = List.replicate 8 2 := by
  have hc := Rc2.isPermutation_keyed [1, 2, 3, 4, 5]
  have hiv : (List.replicate 8 0 : Bytes).length = (Rc2.keyed [1, 2, 3, 4, 5]).blockSize := rfl
  obtain ⟨chain, -, hstart, -, hrefused, -, hcrypt, hheld, -⟩ :=
    fed_in_any_division.1 _ _ .decrypt [List.replicate 8 1, [9], [], List.replicate 16 2] hc hiv
  exact ⟨hc, hiv, chain, hstart, hcrypt, hrefused _ _ (by decide), hheld⟩

end Pkcs12
