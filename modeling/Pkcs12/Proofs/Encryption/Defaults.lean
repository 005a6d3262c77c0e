/-
Identifiers with the count that settings provide.

# A gap between two bounds

Settings hold a default count and a maximum, and both are accepted each by
itself. So an identifier with the default is always made
(`Identifier.exists_default`), but the same settings let it be used only if
the default is within the maximum. Then encryption has nothing left to
complain of but a key whose parts repeat, and decryption nothing at all
(`encrypt_of_within`); otherwise both fail on everything for the count
(`encrypt_decrypt_of_above`). `default_above_maximum_refused` are settings of
that second kind, which are accepted.

# What is asked

That the lengths of salt and default count can be stated. For the counts that
settings can be given in decimal this is no restriction, but settings may be
made with any.
-/
import Pkcs12.Proofs.Encryption.Failure

namespace Pkcs12

variable {s : Settings} {a : Identifier} {t : Scheme} {p : SchemeParameters}

/-- With a scheme, parameters and a count that is allowed, a plaintext has a
ciphertext that is decrypted to it, unless parts of the key repeat. -/
private theorem encrypt_of_within (ht : t.identifier = a.algorithm)
    (hp : SchemeParameters.ofDer a.parameters = .ok p) (hle : p.iterations ≤ s.maxIterations)
    (password plaintext : Bytes) :
    encrypt (.ok s) a password plaintext = .error (.key .degenerate)
      ∨ ∃ c, encrypt (.ok s) a password plaintext = .ok c
          ∧ decrypt (.ok s) a password c = .ok plaintext := by
  have hkeyed : cipherFor (.ok s) a password = _ := cipherFor_of_ok ht hp
  have hlength := Secrets.length_key t p password
  rw [if_pos hle] at hkeyed
  -- settings have nothing more to say; what is left can only be in the key
  by_cases hrejects : t.Rejects (Secrets.ofPassword t p password).key
  · rw [Scheme.cipher_of_rejects hlength hrejects] at hkeyed
    exact Or.inl (encrypt_of_error hkeyed plaintext)
  · obtain ⟨c, hc⟩ := Scheme.cipher_of_not_rejects hlength hrejects
    rw [hc] at hkeyed
    have hencrypt := encrypt_of_ok hkeyed plaintext
    exact Or.inr ⟨_, hencrypt, decrypt_of_encrypt hkeyed hencrypt⟩

/-- With a count above the maximum both operations fail for it on all
data. -/
private theorem encrypt_decrypt_of_above (ht : t.identifier = a.algorithm)
    (hp : SchemeParameters.ofDer a.parameters = .ok p) (habove : s.maxIterations < p.iterations)
    (password data : Bytes) :
    encrypt (.ok s) a password data
        = .error (Derivation.countError p.iterations
            (.iterationsAboveLimit p.iterations s.maxIterations))
      ∧ decrypt (.ok s) a password data
        = .error (Derivation.countError p.iterations
            (.iterationsAboveLimit p.iterations s.maxIterations)) := by
  have hkeyed : cipherFor (.ok s) a password = _ := cipherFor_of_ok ht hp
  rw [if_neg (Nat.not_le_of_lt habove)] at hkeyed
  exact ⟨encrypt_of_error hkeyed data, decrypt_of_error hkeyed data⟩

/-- An identifier with the default count is made, and the count is read from
it again. -/
private theorem Identifier.exists_default (s : Settings) (random : RandomOctets) (t : Scheme)
    (salt : Option Bytes)
    (hstatable : SchemeParameters.Statable (salt.getD (random s.saltSize)) s.defaultIterations) :
    ∃ a u p, forEncryption (.ok s) random t.name salt none = .ok a
      ∧ Scheme.identifier u = a.algorithm ∧ SchemeParameters.ofDer a.parameters = .ok p
      ∧ p.iterations = s.defaultIterations := by
  have hpos : 1 ≤ (none : Option Int).getD s.defaultIterations :=
    Int.ofNat_le.2 s.defaultIterations_pos
  obtain ⟨a, ha⟩ := exists_forEncryption s random t salt hpos
  -- what was made is described by its scheme and its parameters, and these
  -- are read back
  obtain ⟨_, u, p, hs, -, hsalt, hcount, halgorithm, hread⟩ := exists_ofDer_of_forEncryption ha
  cases hs
  rw [Option.getD_none] at hcount
  rw [← hsalt, ← hcount] at hstatable
  exact ⟨a, u, p, ha, halgorithm, hread hstatable, Int.ofNat_inj.1 hcount⟩

/-- The standard settings with another maximum. -/
def Settings.upTo (n : Nat) (hpos : 1 ≤ n) : Settings :=
  { Settings.standard with maxIterations := n, maxIterations_pos := hpos }

theorem SchemeParameters.statable_standard {salt : Bytes} (hsalt : salt.length < Der.lengthBound) :
    Statable salt Settings.standard.defaultIterations := by
  have hcount := Der.length_writeInt_le (n := 2048) (k := 2) (by decide) (by decide)
  exact ⟨hsalt, Nat.lt_of_le_of_lt hcount (by decide)⟩

/-- Identifiers with the default count can be used exactly as far as the
maximum goes. Under all settings, for each scheme and with every salt, given
or drawn, an identifier with the default count is made. If the default is
within the maximum, then under every password each plaintext has a
ciphertext that is decrypted to it, unless parts of the triple DES key
repeat; so nothing is a fault of the data. If it is above, all encryption
and decryption fails for the count, which is a fault of the data if the
count can be named. Of salt and count it is asked that the encoding can
state their lengths. -/
theorem default_usable_within_maximum (s : Settings) (random : RandomOctets) (t : Scheme)
    (salt : Option Bytes)
    (hstatable : SchemeParameters.Statable (salt.getD (random s.saltSize)) s.defaultIterations) :
    ∃ a, Identifier.forEncryption (.ok s) random t.name salt none = .ok a
      ∧ (s.defaultIterations ≤ s.maxIterations → ∀ password plaintext,
          (encrypt (.ok s) a password plaintext = .error (.key .degenerate)
            ∨ ∃ c, encrypt (.ok s) a password plaintext = .ok c
                ∧ decrypt (.ok s) a password c = .ok plaintext))
      ∧ (s.maxIterations < s.defaultIterations → ∀ password data,
          encrypt (.ok s) a password data
              = .error (Derivation.countError s.defaultIterations
                  (.iterationsAboveLimit s.defaultIterations s.maxIterations))
            ∧ decrypt (.ok s) a password data
              = .error (Derivation.countError s.defaultIterations
                  (.iterationsAboveLimit s.defaultIterations s.maxIterations))) := by
  obtain ⟨a, u, p, hnew, hu, hp, hcount⟩ := Identifier.exists_default s random t salt hstatable
  rw [← hcount]
  exact ⟨a, hnew, fun hle => encrypt_of_within hu hp hle,
    fun habove => encrypt_decrypt_of_above hu hp habove⟩

/-- A default that is the maximum, with a salt that is drawn. -/
theorem default_usable_at_maximum :
    ∃ a, Identifier.forEncryption (.ok (Settings.upTo 2048 (by decide)))
        (fun n => List.replicate n 0) Scheme.rc2.name none none = .ok a
      ∧ ∀ password plaintext,
          encrypt (.ok (Settings.upTo 2048 (by decide))) a password plaintext
              = .error (.key .degenerate)
            ∨ ∃ c, encrypt (.ok (Settings.upTo 2048 (by decide))) a password plaintext = .ok c
                ∧ decrypt (.ok (Settings.upTo 2048 (by decide))) a password c = .ok plaintext := by
  obtain ⟨a, hnew, hwithin, -⟩ := default_usable_within_maximum
    (Settings.upTo 2048 (by decide)) (fun n => List.replicate n 0) .rc2 none
    (SchemeParameters.statable_standard (by decide))
  exact ⟨a, hnew, hwithin (by decide)⟩

/-- Settings whose default count is above their maximum are accepted, and
what they make cannot be used under them: with an identifier of the triple
DES scheme not even the empty plaintext is encrypted. -/
theorem default_above_maximum_refused :
    ∃ s a, Settings.ofDraft { maxIterations := 1000 } = .ok s
      ∧ Identifier.forEncryption (.ok s) (fun n => List.replicate n 0) Scheme.tripleDes.name
          (some []) none = .ok a
      ∧ encrypt (.ok s) a [] [] = .error (.format (.iterationsAboveLimit 2048 1000)) := by
  have haccepted : Settings.ofDraft { maxIterations := 1000 }
      = .ok (Settings.upTo 1000 (by decide)) := rfl
  obtain ⟨a, u, p, hnew, hu, hp, hcount⟩ := Identifier.exists_default
    (Settings.upTo 1000 (by decide)) (fun n => List.replicate n 0) .tripleDes (some [])
    (SchemeParameters.statable_standard (by decide))
  have habove : (Settings.upTo 1000 (by decide)).maxIterations < p.iterations := by
    rw [hcount]
    decide
  -- the refusal names the count, which is short enough for that
  have hnameable : 2048 < Numeral.bound := calc
    2048 < 10 ^ 4 := by decide
    _ ≤ 10 ^ Numeral.maxDigits := Nat.pow_le_pow_right (by decide) (by decide)
  obtain ⟨hencrypt, -⟩ := encrypt_decrypt_of_above hu hp habove [] []
  rw [hcount] at hencrypt
  exact ⟨_, a, haccepted, hnew, hencrypt.trans (congrArg _ (countError_of_lt hnameable _))⟩

end Pkcs12
