/-
A ciphertext with one bit changed is never taken for the original.

# Why

The change keeps the length and does change something (`length_flipped`,
`flipped_ne`). So what is decrypted is still a positive number of blocks, and
no longer the ciphertext. Since no two ciphertexts have the same plaintext,
decryption refuses it or answers another plaintext (`decrypt_of_ne`); and what
it refuses it refuses with the one decryption error, since faults of the data
are found in the length alone. Nothing of this is about bits: it holds of
every other string of the same length.

# Indices

`flipBit` takes any integer for its index, as a sequence does: octets are
counted from either end, and an index that does not fit a machine word is an
error of its own. `flipped` is the change of a bit that is there, and
`flipBit_of_lt` says that the two agree on these.
-/
import Pkcs12.Content
import Pkcs12.Proofs.Encryption.Failure

namespace Pkcs12

namespace Bytes

-- ============================================================ single bits

/-- The octets with one bit changed, for a bit that is there: bits count
from the least significant of the first octet. -/
def flipped (data : Bytes) (bit : Nat) : Bytes :=
  data.modify (bit / 8) (· ^^^ (1 <<< UInt8.ofNat (bit % 8)))

private theorem length_flipped (data : Bytes) (bit : Nat) :
    (flipped data bit).length = data.length :=
  List.length_modify ..

/-- An octet with one bit changed is another octet: the exclusive or with itself
would leave the bit alone. -/
private theorem xor_bit_ne (x : UInt8) {k : Nat} (hk : k < 8) :
    x ^^^ (1 <<< UInt8.ofNat k) ≠ x := by
  have hbits : ∀ k < 8, (1 : UInt8) <<< UInt8.ofNat k ≠ 0 := by decide
  intro h
  apply hbits k hk
  calc (1 : UInt8) <<< UInt8.ofNat k = x ^^^ x ^^^ (1 <<< UInt8.ofNat k) := by
        rw [UInt8.xor_self, UInt8.zero_xor]
    _ = x ^^^ (x ^^^ (1 <<< UInt8.ofNat k)) := UInt8.xor_assoc ..
    _ = 0 := by rw [h, UInt8.xor_self]

/-- Octets with one bit changed are other octets, for a bit that is there. Beyond
the end nothing would be changed. -/
private theorem flipped_ne {data : Bytes} {bit : Nat} (h : bit < 8 * data.length) :
    flipped data bit ≠ data := by
  have hoctet : bit / 8 < data.length := by omega
  intro heq
  have hat : (flipped data bit)[bit / 8]? = data[bit / 8]? := by rw [heq]
  rw [flipped, List.getElem?_modify_eq, List.getElem?_eq_getElem hoctet] at hat
  exact xor_bit_ne _ (Nat.mod_lt bit (by decide)) (Option.some.inj hat)

/-- A bit whose octet has an index of at most 64 bits is changed. -/
theorem flipBit_of_lt {data : Bytes} {bit : Nat} (h : bit < 8 * data.length)
    (hword : bit / 8 < 2 ^ 63) : flipBit data bit = .ok (flipped data bit) := by
  have hoctet : Int.fdiv (bit : Int) 8 = ((bit / 8 : Nat) : Int) := by
    rw [Int.fdiv_eq_ediv_of_nonneg _ (by decide)]
    rfl
  have hrest : (Int.fmod (bit : Int) 8).toNat = bit % 8 := by
    rw [Int.fmod_eq_emod_of_nonneg _ (by decide)]
    rfl
  have hfits : fitsWord ((bit / 8 : Nat) : Int) = true := by
    rw [fitsWord, Bool.and_eq_true, decide_eq_true_eq, decide_eq_true_eq]
    omega
  have hfront : ¬ ((bit / 8 : Nat) : Int) < 0 := by omega
  simp only [flipBit, hoctet, hrest, if_neg hfront]
  rw [if_neg (not_not_intro hfits), if_pos ⟨by omega, by omega⟩, Int.toNat_natCast]
  rfl

end Bytes

-- ========================================================== ciphertexts

variable {settings : Settings.Source} {a : Identifier} {password plaintext ciphertext : Bytes}

/-- Another string of the ciphertext's length is refused with the
decryption error or has another plaintext. -/
theorem decrypt_of_ne (h : encrypt settings a password plaintext = .ok ciphertext)
    {other : Bytes} (hlength : other.length = ciphertext.length) (hne : other ≠ ciphertext) :
    decrypt settings a password other = .error .decryption
      ∨ ∃ m, decrypt settings a password other = .ok m ∧ m ≠ plaintext := by
  obtain ⟨⟨c, iv⟩, hkeyed⟩ := exists_cipherFor_of_encrypt h
  have hblocks := length_of_encrypt hkeyed h
  cases hdec : decrypt settings a password other with
  | ok m =>
      refine Or.inr ⟨m, rfl, ?_⟩
      rintro rfl
      -- both would be the ciphertext of one plaintext
      have henc := encrypt_of_decrypt hkeyed hdec
      rw [h] at henc
      injection henc with heq
      exact hne heq.symm
  | error e =>
      rcases decrypt_error_cases hkeyed hdec with ⟨fault, rfl⟩ | rfl
      · rcases (decrypt_eq_format_iff hkeyed other).1 ⟨fault, hdec⟩ with rfl | hpartial
        · rw [List.length_nil] at hlength
          omega
        · omega
      · exact Or.inl rfl

/-- A ciphertext with one bit changed is refused with the decryption error
or has another plaintext. -/
theorem decrypt_flipped (h : encrypt settings a password plaintext = .ok ciphertext) {bit : Nat}
    (hbit : bit < 8 * ciphertext.length) :
    decrypt settings a password (Bytes.flipped ciphertext bit) = .error .decryption
      ∨ ∃ m, decrypt settings a password (Bytes.flipped ciphertext bit) = .ok m
          ∧ m ≠ plaintext :=
  decrypt_of_ne h (Bytes.length_flipped ciphertext bit) (Bytes.flipped_ne hbit)

end Pkcs12
