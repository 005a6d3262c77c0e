/-
What two ciphertexts under one identifier and password show of their
plaintexts.

# The first blocks

Key and initial vector are derived from the identifier and the password alone,
so both encryptions start from the same state. The first blocks of a
ciphertext are then the ciphertext of the first blocks (`take_encrypted`):
chaining looks back and never ahead. Since a ciphertext determines what it was
made from (`encrypted_inj`), ciphertexts agree block by block exactly as far
as the padded plaintexts do.

# The padding

The comparison is of padded plaintexts, and in particular the padding alone
can make the difference: one plaintext may begin the other, and the blocks in
which it ends differ all the same.
-/
import Pkcs12.Proofs.Cipher.Division
import Pkcs12.Proofs.Encryption.Failure

namespace Pkcs12

-- =========================================================== chaining

namespace Chaining

variable {c : BlockCipher} {iv x y : Bytes}

/-- Strings of whole blocks are encrypted alike only if they are equal, since
decryption takes them back. -/
theorem encrypted_inj (hc : c.IsPermutation) (hiv : iv.length = c.blockSize)
    (hx : x.length % c.blockSize = 0) (hy : y.length % c.blockSize = 0) :
    encrypted c iv x = encrypted c iv y ↔ x = y := by
  constructor
  · intro h
    have hback := congrArg (decrypted c iv) h
    rwa [decrypted_encrypted hc hiv hx, decrypted_encrypted hc hiv hy] at hback
  · intro h
    rw [h]

/-- The first blocks are encrypted without regard to what follows. Beyond the end
there is nothing to cut off on either side. -/
private theorem take_encrypted (hc : c.IsPermutation) (hiv : iv.length = c.blockSize)
    (hx : x.length % c.blockSize = 0) (k : Nat) :
    (encrypted c iv x).take (c.blockSize * k) = encrypted c iv (x.take (c.blockSize * k)) := by
  rcases Nat.le_total x.length (c.blockSize * k) with hall | hsome
  · rw [List.take_of_length_le hall,
      List.take_of_length_le (by rw [length_encrypted hc hiv hx]; exact hall)]
  · have hfront : (x.take (c.blockSize * k)).length = c.blockSize * k :=
      List.length_take_of_le hsome
    have hmod : (x.take (c.blockSize * k)).length % c.blockSize = 0 := by
      rw [hfront, Nat.mul_mod_right]
    have hchunks : Bytes.chunks c.blockSize x
        = Bytes.chunks c.blockSize (x.take (c.blockSize * k))
          ++ Bytes.chunks c.blockSize (x.drop (c.blockSize * k)) := by
      rw [← Bytes.chunks_whole_append c.blockSize_ne_zero hmod, List.take_append_drop]
    have hlen := length_encrypted hc hiv hmod
    unfold encrypted at hlen ⊢
    rw [hchunks, encryptBlocks_append, List.flatten_append]
    exact List.take_left' (hlen.trans hfront)

/-- Two ciphertexts from one initial vector agree as far as what they were
made from. -/
private theorem take_encrypted_inj (hc : c.IsPermutation) (hiv : iv.length = c.blockSize)
    (hx : x.length % c.blockSize = 0) (hy : y.length % c.blockSize = 0) (k : Nat) :
    (encrypted c iv x).take (c.blockSize * k) = (encrypted c iv y).take (c.blockSize * k)
      ↔ x.take (c.blockSize * k) = y.take (c.blockSize * k) := by
  rw [take_encrypted hc hiv hx, take_encrypted hc hiv hy,
    encrypted_inj hc hiv (Bytes.length_take_mod hx k) (Bytes.length_take_mod hy k)]

end Chaining

-- ========================================================= two plaintexts

/-- What repeated use of an identifier and a password shows. All plaintexts
can be padded and encrypted, a ciphertext has the length of the padded
plaintext, and two ciphertexts agree on their first `k` blocks exactly when
the padded plaintexts agree on their first `k` blocks. -/
theorem agree_iff_padded_agree {settings : Settings.Source} {a : Identifier} {password : Bytes}
    {keyed : BlockCipher × Bytes} (h : cipherFor settings a password = .ok keyed)
    (p q : Bytes) :
    ∃ x y c d : Bytes,
      Padding.pad p 8 = .ok x ∧ Padding.pad q 8 = .ok y
      ∧ encrypt settings a password p = .ok c ∧ encrypt settings a password q = .ok d
      ∧ c.length = x.length ∧ d.length = y.length
      ∧ ∀ k, c.take (8 * k) = d.take (8 * k) ↔ x.take (8 * k) = y.take (8 * k) := by
  obtain ⟨cipher, iv⟩ := keyed
  obtain ⟨hperm, hsize, -⟩ := isPermutation_of_cipherFor h
  have hiv := length_iv_of_cipherFor h
  have hp := length_padded_mod hsize p
  have hq := length_padded_mod hsize q
  refine ⟨_, _, _, _, Padding.pad_eight p, Padding.pad_eight q, encrypt_of_ok h p,
    encrypt_of_ok h q, Chaining.length_encrypted hperm hiv hp,
    Chaining.length_encrypted hperm hiv hq, ?_⟩
  intro k
  have hagree := Chaining.take_encrypted_inj hperm hiv hp hq k
  rwa [hsize] at hagree

/-- Nine octets of value seven and ten of them: the second padded blocks
differ in the padding only, which shows in the second ciphertext blocks. -/
theorem agree_iff_padded_agree_saltless :
    ∃ keyed, cipherFor (.ok Settings.standard) Identifier.saltless [] = .ok keyed
      ∧ ∃ c d : Bytes,
          encrypt (.ok Settings.standard) Identifier.saltless [] (List.replicate 9 7) = .ok c
          ∧ encrypt (.ok Settings.standard) Identifier.saltless [] (List.replicate 10 7) = .ok d
          ∧ c.take 8 = d.take 8 ∧ c.take 16 ≠ d.take 16 := by
  obtain ⟨keyed, hkeyed⟩ := Identifier.exists_cipherFor_saltless []
  obtain ⟨x, y, c, d, hx, hy, hc, hd, -, -, hagree⟩ :=
    agree_iff_padded_agree hkeyed (List.replicate 9 7) (List.replicate 10 7)
  cases hx
  cases hy
  refine ⟨keyed, hkeyed, c, d, hc, hd, (hagree 1).mpr (by decide), ?_⟩
  intro htwo
  exact absurd ((hagree 2).mp htwo) (by decide)

end Pkcs12
