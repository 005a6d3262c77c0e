/-
What an identifier and a password determine: a keyed cipher with its initial
vector, or the first reason against one.

# Secrets

The scheme, the parameters and the count decide whether there are secrets.
Key and initial vector are derived one after the other, and each derivation
checks the count, but both checks are the same and so the first decides
(`Secrets.derive_eq`). Secrets always have the lengths that their scheme asks
for. Of the faults that a cipher can find with a key only one is left then,
coinciding parts of a triple DES key (`Scheme.Rejects`); a key of the right
length that is not rejected gives a cipher.

# Keyed ciphers

`cipherFor_of_forall_ne`, `cipherFor_of_parameters` and `cipherFor_of_ok` are
the three ways through the pipeline, one for each of its links. A cipher that
is found is a permutation of blocks of eight octets with an initial vector of
that length (`isPermutation_of_cipherFor`), whatever the settings were, and
that is all that the later files know of it.

# Both operations in one line each

Through such a cipher `encrypt_of_ok` gives encryption as chaining over the
padded plaintext, which cannot fail, and `decrypt_of_ok` gives decryption as
two tests of the length and the removal of the padding. The checked loop and
the chain that is started are gone from there on; `ready_of_cipherFor` hands
the chain to those who feed it in parts.
-/
import Pkcs12.Encryption
import Pkcs12.Proofs.Cipher.Chaining
import Pkcs12.Proofs.Cipher.Padding
import Pkcs12.Proofs.Cipher.Permutation
import Pkcs12.Proofs.KeyStream.Stream
import Pkcs12.Proofs.Outcome
import Pkcs12.Proofs.Scheme

namespace Pkcs12

open Outcome

-- =============================================================== keys

namespace TripleDes

/-- A key of three parts of which two neighbours coincide, parity aside. -/
def Repeats (key : Bytes) : Prop :=
  withoutParity (key.take 8) = withoutParity ((key.drop 8).take 8)
    ∨ withoutParity ((key.drop 8).take 8) = withoutParity (key.drop 16)

instance (key : Bytes) : Decidable (Repeats key) :=
  inferInstanceAs (Decidable (_ ∨ _))

/-- A key of three parts is refused only for a repetition. -/
theorem new_eq {key : Bytes} (h : key.length = 24) :
    new key
      = if Repeats key then .error (.key .degenerate)
        else .ok (keyed (key.take 8) ((key.drop 8).take 8) (key.drop 16)) := by
  have hparts : parts? key = some (key.take 8, (key.drop 8).take 8, key.drop 16) := by
    rw [parts?, if_pos h]
  rw [new, hparts]
  by_cases hrep : Repeats key
  · rw [if_pos hrep]
    exact if_pos (degenerate_iff.mpr hrep)
  · rw [if_neg hrep]
    exact if_neg fun h => hrep (degenerate_iff.mp h)

end TripleDes

namespace Scheme

/-- What makes a scheme refuse a key of the right length. -/
def Rejects (t : Scheme) (key : Bytes) : Prop :=
  t = .tripleDes ∧ TripleDes.Repeats key

/-- A key of the right length that a scheme rejects. -/
theorem cipher_of_rejects {t : Scheme} {key : Bytes} (hl : key.length = t.keyLength)
    (h : t.Rejects key) : t.cipher key = .error (.key .degenerate) := by
  obtain ⟨rfl, hrep⟩ := h
  show TripleDes.new key = _
  rw [TripleDes.new_eq hl, if_pos hrep]

/-- What a scheme makes of a key is a permutation of blocks of eight octets,
whichever scheme it is. -/
theorem isPermutation_of_cipher {t : Scheme} {key : Bytes} {c : BlockCipher}
    (h : t.cipher key = .ok c) : c.IsPermutation ∧ c.blockSize = 8 := by
  cases t with
  | tripleDes => exact isPermutation_of_new (Or.inl h)
  | rc2 => exact isPermutation_of_new (Or.inr h)

/-- Any other key of the right length gives a cipher. -/
theorem cipher_of_not_rejects {t : Scheme} {key : Bytes} (hl : key.length = t.keyLength)
    (h : ¬ t.Rejects key) : ∃ c, t.cipher key = .ok c := by
  cases t with
  | tripleDes =>
      have hrep : ¬ TripleDes.Repeats key := fun hrep => h ⟨rfl, hrep⟩
      exact ⟨_, (TripleDes.new_eq hl).trans (if_neg hrep)⟩
  | rc2 =>
      have haccepted : 5 ≤ key.length ∧ key.length ≤ 128 := by
        rw [hl]
        decide
      exact ⟨_, Rc2.new_eq_ok_iff.mpr ⟨haccepted, rfl⟩⟩

end Scheme

-- ============================================================ secrets

/-- Of a positive count only the configured maximum is asked; the check for counts
below one is for callers that have no parameters. -/
theorem Derivation.checkIterations_eq (s : Settings) {n : Nat} (hn : 1 ≤ n) :
    checkIterations (.ok s) n
      = if n ≤ s.maxIterations then .ok ()
        else .error (countError n (.iterationsAboveLimit n s.maxIterations)) := by
  rw [checkIterations, ok_bind, if_neg (by omega)]
  -- the test is for counts above the maximum, the statement for those within
  by_cases hle : n ≤ s.maxIterations
  · rw [if_pos hle, if_neg (by omega)]
    rfl
  · rw [if_neg hle, if_pos (by omega)]
    rfl

namespace Secrets

/-- The secrets of a scheme, whatever the settings allow: both are cut from the
streams of their purpose. -/
def ofPassword (t : Scheme) (p : SchemeParameters) (password : Bytes) : Secrets where
  key := Derivation.derived .key t.keyLength p.salt password p.iterations
  iv := Derivation.derived .iv t.ivLength p.salt password p.iterations

variable (t : Scheme) (p : SchemeParameters) (password : Bytes)

theorem length_key : (ofPassword t p password).key.length = t.keyLength :=
  KeyStream.length_derive ..

private theorem length_iv : (ofPassword t p password).iv.length = 8 :=
  KeyStream.length_derive ..

/-- Both derivations check the count, so the first check decides. -/
theorem derive_eq (s : Settings) :
    derive (.ok s) t p.salt password p.iterations
      = if p.iterations ≤ s.maxIterations then .ok (ofPassword t p password)
        else .error (Derivation.countError p.iterations
          (.iterationsAboveLimit p.iterations s.maxIterations)) := by
  rw [derive, Derivation.key, Derivation.iv, Derivation.checkIterations_eq s p.iterations_pos]
  by_cases hle : p.iterations ≤ s.maxIterations
  · rw [if_pos hle, if_pos hle]
    rfl
  · rw [if_neg hle, if_neg hle]
    rfl

end Secrets

-- ======================================================= keyed ciphers

section Keyed

variable {s : Settings} {a : Identifier} {password : Bytes}

/-- Without a scheme nothing else is looked at, neither the parameters nor the
settings. -/
theorem cipherFor_of_forall_ne {settings : Settings.Source}
    (h : ∀ t : Scheme, t.identifier ≠ a.algorithm) :
    cipherFor settings a password = .error (.unsupported a.algorithm) := by
  rw [cipherFor, Identifier.scheme, Scheme.resolve_of_forall_ne h, error_bind]

/-- Without parameters neither the settings nor the password matter. -/
theorem cipherFor_of_parameters {settings : Settings.Source} {t : Scheme} {e : Error}
    (ht : t.identifier = a.algorithm) (h : SchemeParameters.ofDer a.parameters = .error e) :
    cipherFor settings a password = .error e := by
  rw [cipherFor, Identifier.scheme, ← ht, Scheme.resolve_identifier, ok_bind, h, error_bind]

/-- With a scheme and parameters the count decides, and then the key. No other
link of the pipeline can fail. -/
theorem cipherFor_of_ok {t : Scheme} {p : SchemeParameters} (ht : t.identifier = a.algorithm)
    (hp : SchemeParameters.ofDer a.parameters = .ok p) :
    cipherFor (.ok s) a password
      = if p.iterations ≤ s.maxIterations then
          (t.cipher (Secrets.ofPassword t p password).key).map fun c =>
            (c, (Secrets.ofPassword t p password).iv)
        else .error (Derivation.countError p.iterations
          (.iterationsAboveLimit p.iterations s.maxIterations)) := by
  rw [cipherFor, Identifier.scheme, ← ht, Scheme.resolve_identifier, ok_bind, hp, ok_bind,
    Secrets.derive_eq]
  by_cases hle : p.iterations ≤ s.maxIterations
  · rw [if_pos hle, if_pos hle, ok_bind]
    cases t.cipher (Secrets.ofPassword t p password).key <;> rfl
  · rw [if_neg hle, if_neg hle, error_bind]

/-- A keyed cipher is a permutation of blocks of eight octets, and its
initial vector is a block. -/
theorem isPermutation_of_cipherFor {settings : Settings.Source} {c : BlockCipher} {iv : Bytes}
    (h : cipherFor settings a password = .ok (c, iv)) :
    c.IsPermutation ∧ c.blockSize = 8 ∧ iv.length = 8 := by
  rw [cipherFor] at h
  obtain ⟨t, -, h⟩ := bind_eq_ok_iff.mp h
  obtain ⟨p, -, h⟩ := bind_eq_ok_iff.mp h
  obtain ⟨secrets, hsecrets, h⟩ := bind_eq_ok_iff.mp h
  obtain ⟨cipher, hcipher, h⟩ := bind_eq_ok_iff.mp h
  cases h
  -- secrets are derived under settings only, and then from the password
  cases settings with
  | error e => cases hsecrets
  | ok s =>
      rw [Secrets.derive_eq] at hsecrets
      split at hsecrets
      next hle =>
        cases hsecrets
        obtain ⟨hperm, hsize⟩ := Scheme.isPermutation_of_cipher hcipher
        exact ⟨hperm, hsize, Secrets.length_iv t p password⟩
      · cases hsecrets

theorem length_iv_of_cipherFor {settings : Settings.Source} {c : BlockCipher} {iv : Bytes}
    (h : cipherFor settings a password = .ok (c, iv)) : iv.length = c.blockSize := by
  obtain ⟨-, hsize, hiv⟩ := isPermutation_of_cipherFor h
  rw [hiv, hsize]

end Keyed

-- ========================================================== operations

section Operations

variable {settings : Settings.Source} {a : Identifier} {password : Bytes}

/-- Without a cipher neither operation looks at the data, so it fails alike on all
of them. -/
theorem encrypt_of_error {e : Error} (h : cipherFor settings a password = .error e)
    (plaintext : Bytes) : encrypt settings a password plaintext = .error e := by
  rw [encrypt, chainFor, h]
  rfl

theorem decrypt_of_error {e : Error} (h : cipherFor settings a password = .error e)
    (ciphertext : Bytes) : decrypt settings a password ciphertext = .error e := by
  rw [decrypt, chainFor, h]
  rfl

/-- What is encrypted is encrypted under a cipher. -/
theorem exists_cipherFor_of_encrypt {plaintext ciphertext : Bytes}
    (h : encrypt settings a password plaintext = .ok ciphertext) :
    ∃ keyed, cipherFor settings a password = .ok keyed := by
  cases hkeyed : cipherFor settings a password with
  | ok keyed => exact ⟨keyed, rfl⟩
  | error e =>
      rw [encrypt_of_error hkeyed] at h
      cases h

/-- A plaintext with its padding. -/
def Padding.padded (plaintext : Bytes) : Bytes :=
  plaintext ++ Padding.octets (Padding.needed 8 plaintext.length)

theorem Padding.pad_eight (plaintext : Bytes) :
    Padding.pad plaintext (8 : Nat) = .ok (Padding.padded plaintext) := by
  have hneed := Padding.needed_bounds (b := 8) (by decide) plaintext.length
  rw [Padding.pad_eq (by decide), if_pos (by omega)]
  rfl

theorem Padding.length_padded (plaintext : Bytes) :
    (Padding.padded plaintext).length = 8 * (plaintext.length / 8 + 1) := by
  rw [Padding.padded, List.length_append, Padding.length_octets,
    Padding.length_add_needed (by decide)]

variable {c : BlockCipher} {iv : Bytes}

/-- The chain that a keyed cipher starts. -/
theorem chainFor_of_ok (h : cipherFor settings a password = .ok (c, iv)) (direction : Direction) :
    chainFor settings direction a password = .ok ⟨direction, c, iv⟩ := by
  rw [chainFor, h, ok_bind]
  show Chain.start direction c iv = _
  rw [Chain.start, if_pos (length_iv_of_cipherFor h)]

/-- It is ready for any whole blocks. -/
theorem ready_of_cipherFor (h : cipherFor settings a password = .ok (c, iv))
    (direction : Direction) : (Chain.mk direction c iv).Ready where
  isPermutation := (isPermutation_of_cipherFor h).1
  length_previous := length_iv_of_cipherFor h

/-- Encryption is chaining over the padded plaintext, and cannot fail: the padded
plaintext is of whole blocks, and the chain is ready for them. -/
theorem encrypt_of_ok (h : cipherFor settings a password = .ok (c, iv)) (plaintext : Bytes) :
    encrypt settings a password plaintext
      = .ok (Chaining.encrypted c iv (Padding.padded plaintext)) := by
  obtain ⟨-, hsize, -⟩ := isPermutation_of_cipherFor h
  have hwhole : (Padding.padded plaintext).length % c.blockSize = 0 := by
    rw [Padding.length_padded, hsize, Nat.mul_mod_right]
  rw [encrypt, chainFor_of_ok h, ok_bind]
  show (Padding.pad plaintext (c.blockSize : Int) >>= _) = _
  rw [hsize, Padding.pad_eight, ok_bind, (ready_of_cipherFor h .encrypt).crypt_of_mod hwhole]
  rfl

/-- Decryption refuses what is no positive number of blocks, and otherwise
removes the padding of what chaining yields. -/
theorem decrypt_of_ok (h : cipherFor settings a password = .ok (c, iv)) (ciphertext : Bytes) :
    decrypt settings a password ciphertext
      = if ciphertext = [] then .error (.format .emptyCiphertext)
        else if ciphertext.length % 8 ≠ 0 then .error (.format .partialBlock)
        else Padding.unpad (Chaining.decrypted c iv ciphertext) (8 : Nat) := by
  obtain ⟨-, hsize, -⟩ := isPermutation_of_cipherFor h
  rw [decrypt, chainFor_of_ok h, ok_bind]
  by_cases hempty : ciphertext = []
  · rw [if_pos hempty, if_pos (List.isEmpty_iff.mpr hempty)]
    rfl
  · rw [if_neg hempty, if_neg (fun h => hempty (List.isEmpty_iff.mp h))]
    by_cases hwhole : ciphertext.length % 8 = 0
    · rw [if_neg (not_not_intro (by rw [hsize]; exact hwhole)), if_neg (not_not_intro hwhole),
        (ready_of_cipherFor h .decrypt).crypt_of_mod (by rw [hsize]; exact hwhole), ok_bind,
        Chaining.decrypted, hsize]
      rfl
    · rw [if_pos (by rw [hsize]; exact hwhole), if_pos hwhole]
      rfl

theorem decrypt_eq_unpad (h : cipherFor settings a password = .ok (c, iv)) {ciphertext : Bytes}
    (hne : ciphertext ≠ []) (hwhole : ciphertext.length % 8 = 0) :
    decrypt settings a password ciphertext
      = Padding.unpad (Chaining.decrypted c iv ciphertext) (8 : Nat) := by
  rw [decrypt_of_ok h, if_neg hne, if_neg (not_not_intro hwhole)]

end Operations

end Pkcs12
