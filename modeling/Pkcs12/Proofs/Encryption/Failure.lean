/-
What can go wrong, and in which order.

# Four reasons

An identifier and a password are refused for the first of four reasons that
applies: no scheme, no parameters, too many iterations, a key whose parts
repeat. `Refused` lists them, each with what is presumed of those before it,
so that for any identifier and password at most one is a reason. The first
three do not depend on the password, and none depends on the data.
`refused_or_keyed` says that there is a reason or a cipher, by going through
the reasons in their order, and `cipherFor_eq_error_iff` that the reasons are
exactly the errors that leave no cipher.

# Counts that cannot be named

The refusal of a count names it, and a number of more digits than may be
written cannot be named: the message fails in place of the count
(`Unnameable`, `cipherFor_of_unnameable`). The statements about reasons
therefore ask for a count below `Numeral.bound`. An identifier that is made
with a count below it keeps to it (`not_unnameable_of_forEncryption`).

# With a cipher

Whatever passes encrypts every plaintext. Decryption then fails on data that
are no positive number of blocks, which is a fault of the data, and with the
one decryption error on blocks that encryption does not produce, since
padding that is accepted is padding that is written.
`decrypt_eq_format_iff`, `decrypt_eq_decryption_iff` and
`decrypt_error_cases` say that there is nothing else.
-/
import Pkcs12.Proofs.Algorithm.RoundTrip
import Pkcs12.Proofs.Encryption.RoundTrip
import Pkcs12.Proofs.Settings

namespace Pkcs12

/-- Why an identifier and a password give no cipher. Each reason presumes
that those above it do not apply. -/
inductive Refused (s : Settings) (a : Identifier) (password : Bytes) : Error → Prop where
  /-- The object identifier is none of the supported ones. -/
  | scheme (unknown : ∀ t : Scheme, t.identifier ≠ a.algorithm) :
      Refused s a password (.unsupported a.algorithm)
  /-- The parameters hold no salt and no count. -/
  | parameters {t : Scheme} {fault : FormatFault} (known : t.identifier = a.algorithm)
      (undecodable : SchemeParameters.ofDer a.parameters = .error (.format fault)) :
      Refused s a password (.format fault)
  /-- The count is above the configured maximum. -/
  | count {t : Scheme} {p : SchemeParameters} (known : t.identifier = a.algorithm)
      (decoded : SchemeParameters.ofDer a.parameters = .ok p)
      (above : s.maxIterations < p.iterations) :
      Refused s a password (.format (.iterationsAboveLimit p.iterations s.maxIterations))
  /-- The triple DES key has the first part equal to the second or the
  second equal to the third, parity aside. -/
  | key {p : SchemeParameters} (known : Scheme.tripleDes.identifier = a.algorithm)
      (decoded : SchemeParameters.ofDer a.parameters = .ok p)
      (within : p.iterations ≤ s.maxIterations)
      (repeats : TripleDes.Repeats (Secrets.ofPassword .tripleDes p password).key) :
      Refused s a password (.key .degenerate)

-- ========================================================= one identifier

section Reasons

variable {s : Settings} {a : Identifier} {password : Bytes}

/-- Parameters that do not decode are a fault of the data: of their form, or of a
count below one. -/
theorem SchemeParameters.ofDer_eq_error {der : Bytes} {e : Error} (h : ofDer der = .error e) :
    ∃ fault, e = .format fault := by
  rw [ofDer] at h
  split at h
  · cases h
    exact ⟨_, rfl⟩
  · rw [fromData] at h
    split at h
    · cases h
    · cases h
      exact ⟨_, rfl⟩

/-- A count that can be named in a message is refused as a fault of the
data. -/
theorem countError_of_lt {n : Nat} (h : n < Numeral.bound) (fault : FormatFault) :
    Derivation.countError n fault = .format fault :=
  if_pos h

/-- A count above the configured maximum that is too long to be named. -/
def Unnameable (s : Settings) (a : Identifier) : Prop :=
  ∃ t p, Scheme.identifier t = a.algorithm ∧ SchemeParameters.ofDer a.parameters = .ok p
    ∧ s.maxIterations < p.iterations ∧ Numeral.bound ≤ p.iterations

/-- The message for such a count fails in place of the count. -/
theorem cipherFor_of_unnameable (h : Unnameable s a) :
    cipherFor (.ok s) a password = .error (.misuse .longNumeral) := by
  obtain ⟨t, p, known, decoded, above, long⟩ := h
  rw [cipherFor_of_ok known decoded, if_neg (Nat.not_le_of_lt above), Derivation.countError,
    if_neg (by omega)]

/-- Every reason is one, unless it could not be named. -/
private theorem cipherFor_of_nameable (hcount : ¬ Unnameable s a) {e : Error}
    (h : Refused s a password e) : cipherFor (.ok s) a password = .error e := by
  cases h with
  | scheme unknown => exact cipherFor_of_forall_ne unknown
  | parameters known undecodable => exact cipherFor_of_parameters known undecodable
  | @count t p known decoded above =>
      have hshort : p.iterations < Numeral.bound :=
        Nat.not_le.1 fun hlong => hcount ⟨t, p, known, decoded, above, hlong⟩
      rw [cipherFor_of_ok known decoded, if_neg (Nat.not_le_of_lt above), countError_of_lt hshort]
  | @key p known decoded within repeats =>
      rw [cipherFor_of_ok known decoded, if_pos within,
        Scheme.cipher_of_rejects (Secrets.length_key .tripleDes p password) ⟨rfl, repeats⟩]
      rfl

private theorem cipherFor_of_refused
    (hcount : ∀ p, SchemeParameters.ofDer a.parameters = .ok p → p.iterations < Numeral.bound)
    {e : Error} (h : Refused s a password e) : cipherFor (.ok s) a password = .error e := by
  refine cipherFor_of_nameable ?_ h
  rintro ⟨t, p, -, decoded, -, long⟩
  exact absurd (hcount p decoded) (Nat.not_lt.2 long)

/-- And there are no others: what is refused for none of them has a cipher. The
cases follow the pipeline, and in each of them the reasons before it are at
hand as what did not apply. -/
theorem refused_or_keyed (s : Settings) (a : Identifier) (password : Bytes) :
    (∃ e, Refused s a password e) ∨ ∃ keyed, cipherFor (.ok s) a password = .ok keyed := by
  by_cases hknown : ∃ t : Scheme, t.identifier = a.algorithm
  case neg => exact Or.inl ⟨_, .scheme fun t ht => hknown ⟨t, ht⟩⟩
  case pos =>
    obtain ⟨t, ht⟩ := hknown
    cases hp : SchemeParameters.ofDer a.parameters with
    | error e =>
        obtain ⟨fault, rfl⟩ := SchemeParameters.ofDer_eq_error hp
        exact Or.inl ⟨_, .parameters ht hp⟩
    | ok p =>
        by_cases hle : p.iterations ≤ s.maxIterations
        case neg => exact Or.inl ⟨_, .count ht hp (Nat.lt_of_not_le hle)⟩
        case pos =>
          by_cases hrej : t.Rejects (Secrets.ofPassword t p password).key
          case pos =>
            obtain ⟨rfl, hrep⟩ := hrej
            exact Or.inl ⟨_, .key ht hp hle hrep⟩
          case neg =>
            obtain ⟨c, hc⟩ :=
              Scheme.cipher_of_not_rejects (Secrets.length_key t p password) hrej
            refine Or.inr ⟨(c, (Secrets.ofPassword t p password).iv), ?_⟩
            rw [cipherFor_of_ok ht hp, if_pos hle, hc]
            rfl

/-- The reasons are exactly the errors that leave no cipher. -/
theorem cipherFor_eq_error_iff
    (hcount : ∀ p, SchemeParameters.ofDer a.parameters = .ok p → p.iterations < Numeral.bound)
    (e : Error) : cipherFor (.ok s) a password = .error e ↔ Refused s a password e := by
  constructor
  · intro h
    rcases refused_or_keyed s a password with ⟨e', he'⟩ | ⟨keyed, hok⟩
    · rw [cipherFor_of_refused hcount he'] at h
      cases h
      exact he'
    · rw [hok] at h
      cases h
  · exact cipherFor_of_refused hcount

/-- A fault of the data in the identifier is the same under every password, for
only a key depends on it. -/
private theorem Refused.format_of_format {fault : FormatFault}
    (h : Refused s a password (.format fault))
    (other : Bytes) : Refused s a other (.format fault) := by
  cases h with
  | parameters known undecodable => exact .parameters known undecodable
  | count known decoded above => exact .count known decoded above

/-- Every reason can be reported. -/
theorem Refused.isReportable {e : Error} (h : Refused s a password e) : e.isReportable = true := by
  cases h <;> rfl

/-- What leaves no cipher can be reported, or is a count that cannot be
named. -/
theorem cipherFor_error_cases {e : Error} (h : cipherFor (.ok s) a password = .error e) :
    e.isReportable = true ∨ e = .misuse .longNumeral ∧ Unnameable s a := by
  by_cases hcount : Unnameable s a
  · rw [cipherFor_of_unnameable hcount] at h
    cases h
    exact Or.inr ⟨rfl, hcount⟩
  · rcases refused_or_keyed s a password with ⟨e', hrefused⟩ | ⟨keyed, hkeyed⟩
    · rw [cipherFor_of_nameable hcount hrefused] at h
      cases h
      exact Or.inl hrefused.isReportable
    · rw [hkeyed] at h
      cases h

/-- A count that can be named is the count of its identifier, and so that
one can be named as well. -/
theorem not_unnameable_of_forEncryption {u : Settings} {random : RandomOctets} {family : String}
    {salt : Option Bytes} {iterations : Option Int}
    (h : Identifier.forEncryption (.ok u) random family salt iterations = .ok a)
    (hsalt : (salt.getD (random u.saltSize)).length < Der.lengthBound)
    (hcount : (iterations.getD u.defaultIterations).natAbs < Numeral.bound) :
    ¬ Unnameable s a := by
  obtain ⟨_, _, p, hu, -, hp, hpcount, -, hread⟩ := Identifier.exists_ofDer_of_forEncryption h
  cases hu
  rw [← hp] at hsalt
  rw [← hpcount] at hcount
  have hread := hread (SchemeParameters.statable_of_lt_bound hsalt hcount)
  rintro ⟨_, p', -, hp', -, hlong⟩
  rw [hread] at hp'
  cases hp'
  omega

end Reasons

-- ======================================================= both operations

section Operations

variable {settings : Settings.Source} {a : Identifier} {password : Bytes}
  {c : BlockCipher} {iv : Bytes}

/-- With a cipher, decryption finds a fault of the data exactly in data that are
no positive number of blocks; what it finds in blocks is never called that. -/
theorem decrypt_eq_format_iff (h : cipherFor settings a password = .ok (c, iv))
    (ciphertext : Bytes) :
    (∃ fault, decrypt settings a password ciphertext = .error (.format fault))
      ↔ ciphertext = [] ∨ ciphertext.length % 8 ≠ 0 := by
  rw [decrypt_of_ok h]
  by_cases hempty : ciphertext = []
  · rw [if_pos hempty]
    exact ⟨fun _ => Or.inl hempty, fun _ => ⟨_, rfl⟩⟩
  · rw [if_neg hempty]
    by_cases hwhole : ciphertext.length % 8 = 0
    · rw [if_neg (not_not_intro hwhole)]
      constructor
      · rintro ⟨fault, herr⟩
        cases Padding.unpad_eq_error herr
      · rintro (hnil | hpartial)
        · exact absurd hnil hempty
        · exact absurd hwhole hpartial
    · rw [if_pos hwhole]
      exact ⟨fun _ => Or.inr hwhole, fun _ => ⟨_, rfl⟩⟩

/-- With a cipher, decryption has no errors but these. -/
theorem decrypt_error_cases (h : cipherFor settings a password = .ok (c, iv))
    {ciphertext : Bytes} {e : Error} (hdec : decrypt settings a password ciphertext = .error e) :
    (∃ fault, e = .format fault) ∨ e = .decryption := by
  rw [decrypt_of_ok h] at hdec
  split at hdec
  · cases hdec
    exact Or.inl ⟨_, rfl⟩
  · split at hdec
    · cases hdec
      exact Or.inl ⟨_, rfl⟩
    · exact Or.inr (Padding.unpad_eq_error hdec)

/-- With a cipher, the decryption error meets exactly the blocks that
encryption does not produce. -/
theorem decrypt_eq_decryption_iff (h : cipherFor settings a password = .ok (c, iv))
    (ciphertext : Bytes) :
    decrypt settings a password ciphertext = .error .decryption
      ↔ (ciphertext ≠ [] ∧ ciphertext.length % 8 = 0)
        ∧ ∀ plaintext, encrypt settings a password plaintext ≠ .ok ciphertext := by
  have hformat := decrypt_eq_format_iff h ciphertext
  constructor
  · intro hdec
    have hblocks : ¬ (ciphertext = [] ∨ ciphertext.length % 8 ≠ 0) := by
      intro hbad
      obtain ⟨fault, herr⟩ := hformat.mpr hbad
      rw [hdec] at herr
      cases herr
    obtain ⟨hne, hwhole⟩ := not_or.mp hblocks
    refine ⟨⟨hne, Decidable.not_not.mp hwhole⟩, ?_⟩
    intro plaintext henc
    rw [decrypt_of_encrypt h henc] at hdec
    cases hdec
  · rintro ⟨⟨hne, hwhole⟩, hnone⟩
    -- blocks that are answered were encrypted, and those that are refused are
    -- refused with the decryption error, for they are blocks
    cases hdec : decrypt settings a password ciphertext with
    | ok plaintext => exact absurd (encrypt_of_decrypt h hdec) (hnone plaintext)
    | error e =>
        rcases decrypt_error_cases h hdec with ⟨fault, rfl⟩ | rfl
        · rcases hformat.mp ⟨fault, hdec⟩ with hnil | hpartial
          · exact absurd hnil hne
          · exact absurd hwhole hpartial
        · rfl

end Operations

-- ======================================================= all failures

/-- The failures of encryption and decryption, for a count that fits into a
message. There is no cipher for exactly the reasons listed, and then both
operations fail for that reason on all data, under every password if it is
a fault of the identifier's data. With a cipher, every plaintext is
encrypted, and decryption reports a fault of the data exactly for what is
no positive number of blocks, the decryption error exactly for blocks that
encryption does not produce, and nothing else. -/
theorem failures_exact (s : Settings) (a : Identifier) (password : Bytes)
    (hcount : ∀ p, SchemeParameters.ofDer a.parameters = .ok p →
      p.iterations < Numeral.bound) :
    (∀ e, cipherFor (.ok s) a password = .error e ↔ Refused s a password e)
      ∧ (∀ e, cipherFor (.ok s) a password = .error e →
          (∀ data, encrypt (.ok s) a password data = .error e
            ∧ decrypt (.ok s) a password data = .error e)
          ∧ ∀ fault, e = .format fault → ∀ other data,
              encrypt (.ok s) a other data = .error e
                ∧ decrypt (.ok s) a other data = .error e)
      ∧ (∀ keyed, cipherFor (.ok s) a password = .ok keyed →
          (∀ plaintext, ∃ ciphertext,
            encrypt (.ok s) a password plaintext = .ok ciphertext)
          ∧ ∀ ciphertext,
              ((∃ fault, decrypt (.ok s) a password ciphertext = .error (.format fault))
                ↔ ciphertext = [] ∨ ciphertext.length % 8 ≠ 0)
              ∧ (decrypt (.ok s) a password ciphertext = .error .decryption
                ↔ (ciphertext ≠ [] ∧ ciphertext.length % 8 = 0)
                  ∧ ∀ plaintext, encrypt (.ok s) a password plaintext ≠ .ok ciphertext)
              ∧ ∀ e, decrypt (.ok s) a password ciphertext = .error e →
                  (∃ fault, e = .format fault) ∨ e = .decryption) := by
  refine ⟨cipherFor_eq_error_iff hcount, ?_, ?_⟩
  · intro e herr
    refine ⟨fun data => ⟨encrypt_of_error herr data, decrypt_of_error herr data⟩, ?_⟩
    rintro fault rfl other data
    have hother := cipherFor_of_refused hcount
      (((cipherFor_eq_error_iff hcount _).mp herr).format_of_format other)
    exact ⟨encrypt_of_error hother data, decrypt_of_error hother data⟩
  · rintro ⟨c, iv⟩ hok
    refine ⟨fun plaintext => ⟨_, encrypt_of_ok hok plaintext⟩, ?_⟩
    intro ciphertext
    exact ⟨decrypt_eq_format_iff hok ciphertext, decrypt_eq_decryption_iff hok ciphertext,
      fun e hdec => decrypt_error_cases hok hdec⟩

/-- The RC2 scheme with no salt and one iteration. -/
def Identifier.saltless : Identifier where
  algorithm := "1.2.840.113549.1.12.1.6"
  parameters := [0x30, 0x05, 0x04, 0x00, 0x02, 0x01, 0x01]
  dotted := by decide +kernel

/-- No password gives a key that RC2 rejects, so the saltless identifier has
a cipher under all of them. -/
theorem Identifier.exists_cipherFor_saltless (password : Bytes) :
    ∃ keyed, cipherFor (.ok Settings.standard) saltless password = .ok keyed := by
  have hp : SchemeParameters.ofDer saltless.parameters = .ok ⟨[], 1, by decide⟩ := rfl
  have hlength := Secrets.length_key .rc2 ⟨[], 1, by decide⟩ password
  obtain ⟨c, hc⟩ := Scheme.cipher_of_not_rejects hlength (by rintro ⟨⟨⟩, -⟩)
  have hkeyed : cipherFor (.ok Settings.standard) saltless password = _ :=
    cipherFor_of_ok (t := .rc2) rfl hp
  rw [if_pos (by decide), hc] at hkeyed
  exact ⟨_, hkeyed⟩

/-- No reason applies to the saltless identifier, so it encrypts everything
under the empty password. -/
theorem failures_exact_saltless :
    (∀ p, SchemeParameters.ofDer Identifier.saltless.parameters = .ok p →
        p.iterations < Numeral.bound)
      ∧ ∀ plaintext, ∃ ciphertext,
          encrypt (.ok Settings.standard) Identifier.saltless [] plaintext = .ok ciphertext := by
  have hp : SchemeParameters.ofDer Identifier.saltless.parameters = .ok ⟨[], 1, by decide⟩ := rfl
  have hcount : ∀ p, SchemeParameters.ofDer Identifier.saltless.parameters = .ok p →
      p.iterations < Numeral.bound := by
    intro p h
    rw [hp] at h
    cases h
    exact Nat.one_lt_pow (by decide) (by decide)
  obtain ⟨hiff, -, hok⟩ := failures_exact Settings.standard Identifier.saltless [] hcount
  refine ⟨hcount, ?_⟩
  cases hkeyed : cipherFor (.ok Settings.standard) Identifier.saltless [] with
  | ok keyed => exact (hok keyed hkeyed).1
  | error e =>
      cases (hiff e).mp hkeyed with
      | scheme unknown => exact absurd rfl (unknown .rc2)
      | parameters _ undecodable =>
          rw [hp] at undecodable
          cases undecodable
      | count _ decoded above =>
          rw [hp] at decoded
          cases decoded
          exact absurd above (by decide)
      | key known => exact absurd known (by decide)

end Pkcs12
