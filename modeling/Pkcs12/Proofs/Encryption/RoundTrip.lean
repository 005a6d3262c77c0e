/-
Encryption and decryption under one identifier and password are inverse to
each other, in both directions: what is encrypted can be decrypted, and what
can be decrypted has been encrypted.

# The two halves

The first half is chaining undone by chaining (`decrypted_encrypted`), and a
written padding removed. The second half rests on the padding: a string of
whole blocks is accepted only if it is what padding writes
(`Padding.pad_of_unpad`), so the plaintext pads to what was decrypted, and
chaining gives the ciphertext back. Without that, decryption would accept more
than encryption produces.

# What follows

Stated as one equivalence the two halves make ciphertexts determine plaintexts
and plaintexts determine ciphertexts. Where there is no cipher both sides
fail, so the equivalence needs no assumption on identifier, password or
settings.
-/
import Pkcs12.Proofs.Encryption.Keyed

namespace Pkcs12

variable {settings : Settings.Source} {a : Identifier} {password : Bytes}
  {c : BlockCipher} {iv plaintext ciphertext : Bytes}

/-- A padded plaintext is a positive number of blocks. -/
theorem length_padded_mod (hsize : c.blockSize = 8) (plaintext : Bytes) :
    (Padding.padded plaintext).length % c.blockSize = 0 := by
  rw [Padding.length_padded, hsize, Nat.mul_mod_right]

/-- Ciphertext is as long as the padded plaintext: the next multiple of the block
size that is above the length. -/
theorem length_of_encrypt (h : cipherFor settings a password = .ok (c, iv))
    (henc : encrypt settings a password plaintext = .ok ciphertext) :
    ciphertext.length = 8 * (plaintext.length / 8 + 1) := by
  obtain ⟨hperm, hsize, -⟩ := isPermutation_of_cipherFor h
  rw [encrypt_of_ok h] at henc
  cases henc
  rw [Chaining.length_encrypted hperm (length_iv_of_cipherFor h)
    (length_padded_mod hsize plaintext), Padding.length_padded]

/-- What is encrypted can be decrypted. -/
theorem decrypt_of_encrypt (h : cipherFor settings a password = .ok (c, iv))
    (henc : encrypt settings a password plaintext = .ok ciphertext) :
    decrypt settings a password ciphertext = .ok plaintext := by
  obtain ⟨hperm, hsize, -⟩ := isPermutation_of_cipherFor h
  have hlen := length_of_encrypt h henc
  have hne : ciphertext ≠ [] := by
    rintro rfl
    simp at hlen
  have hwhole : ciphertext.length % 8 = 0 := by rw [hlen, Nat.mul_mod_right]
  rw [encrypt_of_ok h] at henc
  cases henc
  rw [decrypt_eq_unpad h hne hwhole, Chaining.decrypted_encrypted hperm
    (length_iv_of_cipherFor h) (length_padded_mod hsize plaintext)]
  exact Padding.unpad_of_pad (by decide) (Padding.pad_eight plaintext)

/-- What can be decrypted has been encrypted. -/
theorem encrypt_of_decrypt (h : cipherFor settings a password = .ok (c, iv))
    (hdec : decrypt settings a password ciphertext = .ok plaintext) :
    encrypt settings a password plaintext = .ok ciphertext := by
  obtain ⟨hperm, hsize, -⟩ := isPermutation_of_cipherFor h
  have hiv := length_iv_of_cipherFor h
  rw [decrypt_of_ok h] at hdec
  split at hdec
  · cases hdec
  · split at hdec
    · cases hdec
    next hwhole =>
      have hmod : ciphertext.length % 8 = 0 := Decidable.not_not.mp hwhole
      have hmod' : ciphertext.length % c.blockSize = 0 := by rw [hsize]; exact hmod
      have hlen := Chaining.length_decrypted hperm hiv hmod'
      -- the padding that was accepted is the one that would be written
      have hpad := Padding.pad_of_unpad (by rw [hlen]; exact hmod) hdec
      rw [Padding.pad_eight] at hpad
      injection hpad with hpad
      rw [encrypt_of_ok h, hpad,
        Chaining.encrypted_decrypted hperm hiv hmod']

/-- Encryption and decryption are exact inverses. Under an identifier and a
password that give a cipher every plaintext has a ciphertext, which is
decrypted to it and to nothing else; a ciphertext is accepted only if it is
the ciphertext of what it is decrypted to, so no two ciphertexts have the
same plaintext; and a ciphertext is longer than its plaintext by the least
positive number of octets that completes a block. -/
theorem encrypt_eq_ok_iff (settings : Settings.Source) (a : Identifier)
    (password plaintext ciphertext : Bytes) :
    (encrypt settings a password plaintext = .ok ciphertext
        ↔ decrypt settings a password ciphertext = .ok plaintext)
      ∧ (encrypt settings a password plaintext = .ok ciphertext →
          ciphertext.length = 8 * (plaintext.length / 8 + 1))
      ∧ (∀ other, decrypt settings a password ciphertext = .ok plaintext →
          decrypt settings a password other = .ok plaintext → other = ciphertext)
      ∧ (∀ keyed, cipherFor settings a password = .ok keyed →
          ∃ out, encrypt settings a password plaintext = .ok out) := by
  cases h : cipherFor settings a password with
  | error e =>
      have hdec (data : Bytes) : decrypt settings a password data ≠ .ok plaintext := by
        rw [decrypt_of_error h]
        intro hok
        cases hok
      have henc : encrypt settings a password plaintext ≠ .ok ciphertext := by
        rw [encrypt_of_error h]
        intro hok
        cases hok
      exact ⟨⟨fun hok => absurd hok henc, fun hok => absurd hok (hdec _)⟩,
        fun hok => absurd hok henc, fun _ hok _ => absurd hok (hdec _),
        fun _ hok => nomatch hok⟩
  | ok keyed =>
      refine ⟨⟨decrypt_of_encrypt h, encrypt_of_decrypt h⟩, length_of_encrypt h, ?_,
        fun _ _ => ⟨_, encrypt_of_ok h plaintext⟩⟩
      intro other hdec hother
      have henc := encrypt_of_decrypt h hdec
      rw [encrypt_of_decrypt h hother] at henc
      injection henc

end Pkcs12
