/-
Keyed ciphers as their callers have them: which keys are accepted, and what
the two entry points do under an accepted key.

# Entry points

A caller does not reach the cipher itself but `encryptBlock` and
`decryptBlock`, which refuse what is not a block. Under a permutation of
blocks one of them answers `x` to `b` exactly when the other answers `b` to
`x` (`encryptBlock_iff_decryptBlock`). That one equivalence says that either
undoes the other, that both are injective, and, with `exists_encryptBlock`
and `exists_decryptBlock`, that both are onto the blocks.

# Accepted keys

Triple DES and RC2 are permutations under every key whatsoever, which
`Proofs/Cipher/TripleDes` and `Proofs/Cipher/Rc2` show. What is left to say
of the keys is which ones are accepted at all:

- for triple DES, two or three parts of eight octets of which no neighbours
  coincide, parity aside. `HasParts` states the parts of a key by
  concatenation, and `parts?_eq_some_iff` shows that cutting the key at fixed
  places finds them;
- for RC2, any five to 128 octets.

`new_eq_ok_iff` says in both cases that acceptance and the cipher under the
parts come together, so that no property of an accepted key is left in the
equivalences but the one that was tested.
-/
import Pkcs12.Proofs.Cipher.Rc2
import Pkcs12.Proofs.Cipher.TripleDes

namespace Pkcs12

-- ====================================================== entry points

namespace BlockCipher

variable {c : BlockCipher} {b x : Bytes}

theorem encryptBlock_eq_ok_iff :
    c.encryptBlock b = .ok x ↔ b.length = c.blockSize ∧ c.forward b = x := by
  unfold encryptBlock
  split
  next hb => simp [hb]
  next hb => simp [hb]

theorem decryptBlock_eq_ok_iff :
    c.decryptBlock b = .ok x ↔ b.length = c.blockSize ∧ c.backward b = x := by
  unfold decryptBlock
  split
  next hb => simp [hb]
  next hb => simp [hb]

/-- Anything but a block is refused in both directions, and in the same way: with
the name and the block size of the cipher and nothing of the octets. -/
private theorem refused_of_length_ne (h : b.length ≠ c.blockSize) :
    c.encryptBlock b = .error (.misuse (.blockLength c.name c.blockSize))
      ∧ c.decryptBlock b = .error (.misuse (.blockLength c.name c.blockSize)) :=
  ⟨if_neg h, if_neg h⟩

namespace IsPermutation

/-- The entry points of a permutation undo each other, lengths included: an
answer of either is a block, and therefore accepted by the other. -/
theorem encryptBlock_iff_decryptBlock (hc : c.IsPermutation) :
    c.encryptBlock b = .ok x ↔ c.decryptBlock x = .ok b := by
  rw [encryptBlock_eq_ok_iff, decryptBlock_eq_ok_iff]
  constructor
  · intro h
    obtain ⟨hb, rfl⟩ := h
    exact ⟨hc.length_forward b hb, hc.backward_forward b hb⟩
  · intro h
    obtain ⟨hx, rfl⟩ := h
    exact ⟨hc.length_backward x hx, hc.forward_backward x hx⟩

private theorem exists_encryptBlock (hc : c.IsPermutation) (hb : b.length = c.blockSize) :
    ∃ x, c.encryptBlock b = .ok x ∧ x.length = c.blockSize :=
  ⟨c.forward b, encryptBlock_eq_ok_iff.mpr ⟨hb, rfl⟩, hc.length_forward b hb⟩

private theorem exists_decryptBlock (hc : c.IsPermutation) (hb : b.length = c.blockSize) :
    ∃ x, c.decryptBlock b = .ok x ∧ x.length = c.blockSize :=
  ⟨c.backward b, decryptBlock_eq_ok_iff.mpr ⟨hb, rfl⟩, hc.length_backward b hb⟩

end IsPermutation

end BlockCipher

-- ===================================================== accepted keys

namespace TripleDes

/-- The parts of a key, in the order of the passes. A key of two parts uses
the first one again as the third. -/
def HasParts (key k₁ k₂ k₃ : Bytes) : Prop :=
  k₁.length = 8 ∧ k₂.length = 8 ∧ k₃.length = 8
    ∧ (key = k₁ ++ k₂ ++ k₃ ∨ key = k₁ ++ k₂ ∧ k₃ = k₁)

variable {key k₁ k₂ k₃ : Bytes} {c : BlockCipher}

/-- Cutting a key after eight and sixteen octets finds its parts. Of a key of 24
octets all three are its own, of one of 16 the third is the first again, and
no key has both lengths. -/
theorem parts?_eq_some_iff : parts? key = some (k₁, k₂, k₃) ↔ HasParts key k₁ k₂ k₃ := by
  constructor
  · intro h
    unfold parts? at h
    split at h
    next hthree =>
      cases h
      have hkey : key = key.take 8 ++ (key.drop 8).take 8 ++ key.drop 16 := by
        rw [List.append_assoc, show 16 = 8 + 8 from rfl, ← List.drop_drop,
          List.take_append_drop, List.take_append_drop]
      exact ⟨by simp [hthree], by simp [hthree], by simp [hthree], Or.inl hkey⟩
    next hthree =>
      split at h
      next htwo =>
        cases h
        exact ⟨by simp [htwo], by simp [htwo], by simp [htwo],
          Or.inr ⟨(List.take_append_drop 8 key).symm, rfl⟩⟩
      · cases h
  -- conversely the lengths of the parts put the cuts where the parts meet
  · rintro ⟨h₁, h₂, h₃, rfl | ⟨rfl, rfl⟩⟩
    · have hlen : (k₁ ++ k₂ ++ k₃).length = 24 := by simp [h₁, h₂, h₃]
      have hlast : (k₁ ++ k₂ ++ k₃).drop 16 = k₃ := List.drop_left' (by simp [h₁, h₂])
      rw [parts?, if_pos hlen, hlast, List.append_assoc, List.take_left' h₁, List.drop_left' h₁,
        List.take_left' h₂]
    · have hlen : (k₃ ++ k₂).length = 16 := by simp [h₁, h₂]
      rw [parts?, if_neg (by omega), if_pos hlen, List.take_left' h₁, List.drop_left' h₁]

/-- A key degenerates if two neighbouring parts coincide, parity aside: two of
the three passes would cancel. The first and the third part may coincide. -/
theorem degenerate_iff :
    degenerate k₁ k₂ k₃ = true
      ↔ withoutParity k₁ = withoutParity k₂ ∨ withoutParity k₂ = withoutParity k₃ := by
  rw [degenerate, Bool.or_eq_true, beq_iff_eq, beq_iff_eq]

/-- A key is accepted if no two neighbouring parts coincide, and the cipher
is the one under its parts. -/
theorem new_eq_ok_iff :
    new key = .ok c
      ↔ ∃ k₁ k₂ k₃, HasParts key k₁ k₂ k₃ ∧ withoutParity k₁ ≠ withoutParity k₂
          ∧ withoutParity k₂ ≠ withoutParity k₃ ∧ c = keyed k₁ k₂ k₃ := by
  unfold new
  constructor
  · intro h
    split at h
    · cases h
    next k₁ k₂ k₃ hparts =>
      split at h
      · cases h
      next hdistinct =>
        cases h
        rw [degenerate_iff, not_or] at hdistinct
        exact ⟨k₁, k₂, k₃, parts?_eq_some_iff.mp hparts, hdistinct.1, hdistinct.2, rfl⟩
  · intro h
    obtain ⟨k₁, k₂, k₃, hparts, h₁₂, h₂₃, rfl⟩ := h
    have hdistinct : ¬ degenerate k₁ k₂ k₃ = true := by
      rw [degenerate_iff, not_or]
      exact ⟨h₁₂, h₂₃⟩
    rw [parts?_eq_some_iff.mpr hparts]
    exact if_neg hdistinct

end TripleDes

theorem Rc2.new_eq_ok_iff {key : Bytes} {c : BlockCipher} :
    new key = .ok c ↔ (5 ≤ key.length ∧ key.length ≤ 128) ∧ c = keyed key := by
  have hlength : acceptsLength key.length = true ↔ 5 ≤ key.length ∧ key.length ≤ 128 := by
    rw [acceptsLength, Bool.and_eq_true, decide_eq_true_eq, decide_eq_true_eq]
  unfold new
  constructor
  · intro h
    split at h
    next haccepted =>
      cases h
      exact ⟨hlength.mp haccepted, rfl⟩
    · cases h
  · intro h
    obtain ⟨haccepted, rfl⟩ := h
    exact if_pos (hlength.mpr haccepted)

-- ======================================================= under a key

/-- What is accepted gives a permutation of blocks of eight octets. -/
theorem isPermutation_of_new {key : Bytes} {c : BlockCipher}
    (h : TripleDes.new key = .ok c ∨ Rc2.new key = .ok c) : c.IsPermutation ∧ c.blockSize = 8 := by
  rcases h with h | h
  · obtain ⟨k₁, k₂, k₃, -, -, -, rfl⟩ := TripleDes.new_eq_ok_iff.mp h
    exact ⟨TripleDes.isPermutation_keyed k₁ k₂ k₃, rfl⟩
  · obtain ⟨-, rfl⟩ := Rc2.new_eq_ok_iff.mp h
    exact ⟨Rc2.isPermutation_keyed key, rfl⟩

/-- Keyed ciphers permute the blocks of eight octets. Triple DES accepts the
keys of two or three parts no neighbours of which coincide, parity aside,
and RC2 those of five to 128 octets. Under every key that one of them
accepts, both entry points answer a block with a block, one answers `x` to
`b` exactly when the other answers `b` to `x`, and whatever is no block is
refused by both. -/
theorem blocks_permuted_under_key (key : Bytes) :
    ((∃ c, TripleDes.new key = .ok c)
        ↔ ∃ k₁ k₂ k₃, TripleDes.HasParts key k₁ k₂ k₃
            ∧ TripleDes.withoutParity k₁ ≠ TripleDes.withoutParity k₂
            ∧ TripleDes.withoutParity k₂ ≠ TripleDes.withoutParity k₃)
      ∧ ((∃ c, Rc2.new key = .ok c) ↔ 5 ≤ key.length ∧ key.length ≤ 128)
      ∧ ∀ c : BlockCipher, TripleDes.new key = .ok c ∨ Rc2.new key = .ok c →
          (∀ b : Bytes, b.length = 8 →
              (∃ x, c.encryptBlock b = .ok x ∧ x.length = 8)
              ∧ ∃ x, c.decryptBlock b = .ok x ∧ x.length = 8)
          ∧ (∀ b x : Bytes, c.encryptBlock b = .ok x ↔ c.decryptBlock x = .ok b)
          ∧ ∀ b : Bytes, b.length ≠ 8 →
              c.encryptBlock b = .error (.misuse (.blockLength c.name 8))
              ∧ c.decryptBlock b = .error (.misuse (.blockLength c.name 8)) := by
  refine ⟨?tripleDes, ?rc2, ?permuted⟩
  case tripleDes =>
    simp only [TripleDes.new_eq_ok_iff]
    constructor
    · intro h
      obtain ⟨c, k₁, k₂, k₃, hparts, h₁₂, h₂₃, -⟩ := h
      exact ⟨k₁, k₂, k₃, hparts, h₁₂, h₂₃⟩
    · intro h
      obtain ⟨k₁, k₂, k₃, hparts, h₁₂, h₂₃⟩ := h
      exact ⟨_, k₁, k₂, k₃, hparts, h₁₂, h₂₃, rfl⟩
  case rc2 =>
    simp only [Rc2.new_eq_ok_iff, exists_and_left, exists_eq, and_true]
  case permuted =>
    -- both ciphers at once: all that the entry points need is the permutation
    -- and the block size
    intro c hnew
    obtain ⟨hperm, hsize⟩ := isPermutation_of_new hnew
    rw [← hsize]
    exact ⟨fun b hb => ⟨hperm.exists_encryptBlock hb, hperm.exists_decryptBlock hb⟩,
      fun b x => hperm.encryptBlock_iff_decryptBlock,
      fun b hb => BlockCipher.refused_of_length_ne hb⟩

/-- A triple DES key of two parts and an RC2 key of five octets are accepted.
Under either, a block is encrypted and decrypted back, and seven octets are
refused in both directions. -/
theorem blocks_permuted_under_key_short :
    (∃ c, TripleDes.new [0, 1, 2, 3, 4, 5, 6, 7, 8, 9, 10, 11, 12, 13, 14, 15] = .ok c
        ∧ (∃ x, c.encryptBlock (List.replicate 8 7) = .ok x
            ∧ c.decryptBlock x = .ok (List.replicate 8 7))
        ∧ c.encryptBlock (List.replicate 7 7) = .error (.misuse (.blockLength c.name 8))
        ∧ c.decryptBlock (List.replicate 7 7) = .error (.misuse (.blockLength c.name 8)))
      ∧ ∃ c, Rc2.new [1, 2, 3, 4, 5] = .ok c
        ∧ (∃ x, c.encryptBlock (List.replicate 8 7) = .ok x
            ∧ c.decryptBlock x = .ok (List.replicate 8 7))
        ∧ c.encryptBlock (List.replicate 7 7) = .error (.misuse (.blockLength c.name 8))
        ∧ c.decryptBlock (List.replicate 7 7) = .error (.misuse (.blockLength c.name 8)) := by
  constructor
  · obtain ⟨haccepts, -, hunder⟩ :=
      blocks_permuted_under_key [0, 1, 2, 3, 4, 5, 6, 7, 8, 9, 10, 11, 12, 13, 14, 15]
    obtain ⟨c, hnew⟩ := haccepts.mpr ⟨[0, 1, 2, 3, 4, 5, 6, 7], [8, 9, 10, 11, 12, 13, 14, 15],
      [0, 1, 2, 3, 4, 5, 6, 7], ⟨rfl, rfl, rfl, Or.inr ⟨rfl, rfl⟩⟩, by decide, by decide⟩
    obtain ⟨hblocks, hback, hrefused⟩ := hunder c (Or.inl hnew)
    obtain ⟨⟨x, hx, -⟩, -⟩ := hblocks (List.replicate 8 7) rfl
    exact ⟨c, hnew, ⟨x, hx, (hback _ x).mp hx⟩, hrefused (List.replicate 7 7) (by decide)⟩
  · obtain ⟨-, haccepts, hunder⟩ := blocks_permuted_under_key [1, 2, 3, 4, 5]
    obtain ⟨c, hnew⟩ := haccepts.mpr ⟨by decide, by decide⟩
    obtain ⟨hblocks, hback, hrefused⟩ := hunder c (Or.inr hnew)
    obtain ⟨⟨x, hx, -⟩, -⟩ := hblocks (List.replicate 8 7) rfl
    exact ⟨c, hnew, ⟨x, hx, (hback _ x).mp hx⟩, hrefused (List.replicate 7 7) (by decide)⟩

end Pkcs12
