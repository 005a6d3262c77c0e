/-
Damage to one block of a ciphertext, as decryption answers it.

# Two parts

Chaining confines the damage to two blocks of what is decrypted
(`decrypted_differ`, the laws of `Proofs/Cipher/Damage` for a cipher under an
identifier and a password). The padding is read off the last block alone
(`Padding.unpad_of_block_eq`). Damage further in front than the last two
blocks is therefore never seen by the padding: both ciphertexts are refused,
or both are decrypted to plaintexts of one length, and since the damaged
block does decrypt to something else, these differ (`unpad_differ`). No error
tells so.

# Positions

Blocks are counted from zero, and the hypothesis is that the blocks at all
positions but one agree. That the damaged block is within the ciphertexts
follows from its being different.
-/
import Pkcs12.Proofs.Cipher.Damage
import Pkcs12.Proofs.Cipher.Division
import Pkcs12.Proofs.Encryption.Failure

namespace Pkcs12

variable {settings : Settings.Source} {a : Identifier} {password : Bytes}

/-- Two strings of blocks that differ in one block are decrypted to strings that
differ there, and in the next block by as much. All others agree. -/
private theorem decrypted_differ {c : BlockCipher} {iv : Bytes}
    (h : cipherFor settings a password = .ok (c, iv)) {n j : Nat} {x y : Bytes}
    (hx : x.length = 8 * n) (hy : y.length = 8 * n)
    (hdiffer : Bytes.block 8 j x ≠ Bytes.block 8 j y)
    (hother : ∀ i, i ≠ j → Bytes.block 8 i x = Bytes.block 8 i y) :
    (∀ i, i ≠ j → i ≠ j + 1 →
        Bytes.block 8 i (Chaining.decrypted c iv x) = Bytes.block 8 i (Chaining.decrypted c iv y))
      ∧ Bytes.block 8 j (Chaining.decrypted c iv x) ≠ Bytes.block 8 j (Chaining.decrypted c iv y)
      ∧ (j + 1 < n →
          Bytes.xor (Bytes.block 8 (j + 1) (Chaining.decrypted c iv x))
              (Bytes.block 8 (j + 1) (Chaining.decrypted c iv y))
            = Bytes.xor (Bytes.block 8 j x) (Bytes.block 8 j y)) := by
  obtain ⟨hperm, hsize, -⟩ := isPermutation_of_cipherFor h
  have hiv := length_iv_of_cipherFor h
  -- the laws of chaining are stated with the block size of the cipher
  rw [← hsize] at hx hy hdiffer hother ⊢
  have hxy : y.length = x.length := by rw [hx, hy]
  have hwholex : x.length % c.blockSize = 0 := by rw [hx, Nat.mul_mod_right]
  have hwholey : y.length % c.blockSize = 0 := by rw [hy, Nat.mul_mod_right]
  refine ⟨?elsewhere, Chaining.block_decrypted_ne hother hperm hiv hwholex hwholey hxy hdiffer,
    ?next⟩
  case elsewhere =>
    intro i hi hnext
    exact Chaining.block_decrypted_of_ne hother hperm hiv hwholex hwholey hxy hi hnext
  case next =>
    intro hj
    have hin : c.blockSize * (j + 1) < x.length := by
      rw [hx]
      exact (Nat.mul_lt_mul_left c.blockSize_pos).mpr hj
    exact Chaining.xor_block_decrypted_succ hother hperm hiv hwholex hwholey hxy hin

/-- What is decrypted loses its padding together, and differently, when a block
before the last differs: the padding does not reach that block. -/
private theorem unpad_differ {u v : Bytes} {j k : Nat} (hu : u.length = 8 * (k + 1))
    (hv : v.length = 8 * (k + 1)) (hlast : Bytes.block 8 k u = Bytes.block 8 k v) (hj : j < k)
    (hdiffer : Bytes.block 8 j u ≠ Bytes.block 8 j v) :
    (Padding.unpad u (8 : Nat) = .error .decryption
        ∧ Padding.unpad v (8 : Nat) = .error .decryption)
      ∨ ∃ p q, Padding.unpad u (8 : Nat) = .ok p ∧ Padding.unpad v (8 : Nat) = .ok q
          ∧ p.length = q.length ∧ p ≠ q := by
  rcases Padding.unpad_of_block_eq hu hv hlast with hrefused | ⟨r, hp, hq⟩
  · exact Or.inl hrefused
  · have hfront : (u.take (8 * k)).length = (v.take (8 * k)).length := by
      rw [List.length_take, List.length_take, hu, hv]
    refine Or.inr ⟨_, _, hp, hq, ?_, ?_⟩
    · rw [List.length_append, List.length_append, hfront]
    · intro hsame
      apply hdiffer
      rw [← Bytes.block_take hj, List.append_inj_left hsame hfront, Bytes.block_take hj]

/-- Damage is local. Let two ciphertexts of `n` blocks differ in block `j`
only, under an identifier and a password that give a cipher. What the chain
decrypts them to agrees in every block but `j` and `j + 1`, differs in block
`j`, and in block `j + 1` differs by what the ciphertexts differ by. If
block `j` is not one of the last two, then decryption refuses both, or it
answers both with plaintexts of one length that are not the same. -/
theorem damage_is_local {keyed : BlockCipher × Bytes}
    (h : cipherFor settings a password = .ok keyed) {n j : Nat} {x y : Bytes}
    (hx : x.length = 8 * n) (hy : y.length = 8 * n)
    (hdiffer : Bytes.block 8 j x ≠ Bytes.block 8 j y)
    (hother : ∀ i, i ≠ j → Bytes.block 8 i x = Bytes.block 8 i y) :
    ∃ chain u v left right,
      chainFor settings .decrypt a password = .ok chain
      ∧ chain.crypt x = .ok (u, left) ∧ chain.crypt y = .ok (v, right)
      ∧ u.length = 8 * n ∧ v.length = 8 * n
      ∧ (∀ i, i ≠ j → i ≠ j + 1 → Bytes.block 8 i u = Bytes.block 8 i v)
      ∧ Bytes.block 8 j u ≠ Bytes.block 8 j v
      ∧ (j + 1 < n →
          Bytes.xor (Bytes.block 8 (j + 1) u) (Bytes.block 8 (j + 1) v)
            = Bytes.xor (Bytes.block 8 j x) (Bytes.block 8 j y))
      ∧ (j + 2 < n →
          (decrypt settings a password x = .error .decryption
              ∧ decrypt settings a password y = .error .decryption)
          ∨ ∃ p q, decrypt settings a password x = .ok p ∧ decrypt settings a password y = .ok q
              ∧ p.length = q.length ∧ p ≠ q) := by
  obtain ⟨c, iv⟩ := keyed
  obtain ⟨hperm, hsize, -⟩ := isPermutation_of_cipherFor h
  have hiv := length_iv_of_cipherFor h
  obtain ⟨hagree, hdamaged, hnext⟩ := decrypted_differ h hx hy hdiffer hother
  have hwholex : x.length % c.blockSize = 0 := by rw [hx, hsize, Nat.mul_mod_right]
  have hwholey : y.length % c.blockSize = 0 := by rw [hy, hsize, Nat.mul_mod_right]
  have hlenu : (Chaining.decrypted c iv x).length = 8 * n := by
    rw [Chaining.length_decrypted hperm hiv hwholex, hx]
  have hlenv : (Chaining.decrypted c iv y).length = 8 * n := by
    rw [Chaining.length_decrypted hperm hiv hwholey, hy]
  have hready := ready_of_cipherFor h .decrypt
  refine ⟨_, _, _, _, _, chainFor_of_ok h .decrypt, hready.crypt_of_mod hwholex,
    hready.crypt_of_mod hwholey, hlenu, hlenv, hagree, hdamaged, hnext, ?padding⟩
  case padding =>
    intro hj
    obtain ⟨k, rfl⟩ : ∃ k, n = k + 1 := ⟨n - 1, by omega⟩
    have hnonempty {z : Bytes} (hz : z.length = 8 * (k + 1)) : z ≠ [] := by
      rintro rfl
      rw [List.length_nil] at hz
      omega
    rw [decrypt_eq_unpad h (hnonempty hx) (by rw [hx, Nat.mul_mod_right]),
      decrypt_eq_unpad h (hnonempty hy) (by rw [hy, Nat.mul_mod_right])]
    exact unpad_differ hlenu hlenv (hagree k (by omega) (by omega)) (by omega) hdamaged

/-- Four blocks of zeros, and the same with a one in the second block. -/
theorem damage_is_local_saltless :
    ∃ keyed, cipherFor (.ok Settings.standard) Identifier.saltless [] = .ok keyed
      ∧ ∃ x y : Bytes, x.length = 8 * 4 ∧ y.length = 8 * 4
          ∧ Bytes.block 8 1 x ≠ Bytes.block 8 1 y
          ∧ (∀ i, i ≠ 1 → Bytes.block 8 i x = Bytes.block 8 i y)
          ∧ ∃ chain u v left right,
              chainFor (.ok Settings.standard) .decrypt Identifier.saltless [] = .ok chain
              ∧ chain.crypt x = .ok (u, left) ∧ chain.crypt y = .ok (v, right)
              ∧ Bytes.block 8 0 u = Bytes.block 8 0 v ∧ Bytes.block 8 1 u ≠ Bytes.block 8 1 v
              ∧ Bytes.xor (Bytes.block 8 2 u) (Bytes.block 8 2 v) = [1, 0, 0, 0, 0, 0, 0, 0]
              ∧ Bytes.block 8 3 u = Bytes.block 8 3 v := by
  obtain ⟨keyed, hkeyed⟩ := Identifier.exists_cipherFor_saltless []
  have hx : (List.replicate 32 0 : Bytes).length = 8 * 4 := rfl
  have hy : (List.replicate 8 0 ++ 1 :: List.replicate 23 0 : Bytes).length = 8 * 4 := rfl
  have hdiffer : Bytes.block 8 1 (List.replicate 32 0 : Bytes)
      ≠ Bytes.block 8 1 (List.replicate 8 0 ++ 1 :: List.replicate 23 0) := by decide
  have hother : ∀ i, i ≠ 1 → Bytes.block 8 i (List.replicate 32 0 : Bytes)
      = Bytes.block 8 i (List.replicate 8 0 ++ 1 :: List.replicate 23 0) := by
    intro i hi
    rcases i with - | - | i
    · rfl
    · exact absurd rfl hi
    · rfl
  obtain ⟨chain, u, v, left, right, hchain, hu, hv, -, -, hagree, hdamaged, hnext, -⟩ :=
    damage_is_local hkeyed hx hy hdiffer hother
  exact ⟨keyed, hkeyed, _, _, hx, hy, hdiffer, hother, chain, u, v, left, right, hchain, hu, hv,
    hagree 0 (by decide) (by decide), hdamaged, hnext (by decide), hagree 3 (by decide) (by decide)⟩

end Pkcs12
