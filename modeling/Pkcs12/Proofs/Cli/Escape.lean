/-
What leaves a run without an answer.

# Design

Errors are answered or they are not, and along a chain of computations the
first one that fails decides. `Leaves x e` says that `x` ends with the error
`e`, and that this is one of those that are not answered. `leaves_bind_iff`
is the law for a chain: it is left at its first link, or the link has a
value and what is done with it is left. A command is such a chain, so its
errors can be read off its links, one after the other, and a link with nothing
but answered errors drops out (`leaves_bind_iff_of_not_leaves`).

# Links

Few links of a command have such errors, and each of these has a law of its
own: a text or a password that is missing or has no encoded form
(`leaves_toBytes_iff`, `leaves_passwordOctets_iff`), octets that lack nothing
but the name of an algorithm (`leaves_ofDer_iff`), and a count that no message
can name (`leaves_cipherFor_iff`, and with it encryption and decryption). What
keeps an identifier from being made is always answered
(`not_leaves_prepared`), and so is what is wrong with a ciphertext.

# Commands

`leaves_runEncrypt_iff` and `leaves_runDecrypt_iff` put the links together, in
their order. For an encryption the reasons are a text first, then a password,
then a count, each with what must have gone well before it. Its last link,
writing down the identifier, needs an argument: an identifier under which
something was encrypted can always be handed on, since its parameters were
read.
-/
import Pkcs12.Cli.Run
import Pkcs12.Proofs.Algorithm.Reading
import Pkcs12.Proofs.Encryption.Failure
import Pkcs12.Proofs.Text.Surrogates

namespace Pkcs12.Cli

open Pkcs12.Outcome (ok_bind bind_eq_ok_iff bind_eq_error_iff)
open Text (FirstRun)

-- ================================================================ errors

section Leaves

variable {α β : Type} {x : Except Error α} {f : α → Except Error β} {e : Error}

/-- A computation ends with an error that is not answered, so it leaves the run. -/
def Leaves (x : Except Error α) (e : Error) : Prop :=
  x = .error e ∧ e.isReportable = false

theorem not_leaves_ok (a : α) (e : Error) : ¬ Leaves (.ok a) e :=
  fun h => (nomatch h.1)

/-- What fails with answered errors only does not leave the run. -/
private theorem not_leaves_of_isReportable (h : ∀ e, x = .error e → e.isReportable = true)
    (e : Error) :
    ¬ Leaves x e := by
  rintro ⟨hx, hnot⟩
  rw [h e hx] at hnot
  cases hnot

/-- A chain is left at its first link, or the link has a value and the rest is left
with it. -/
theorem leaves_bind_iff :
    Leaves (x >>= f) e ↔ Leaves x e ∨ ∃ a, x = .ok a ∧ Leaves (f a) e := by
  rw [Leaves, bind_eq_error_iff]
  constructor
  · rintro ⟨hx | ⟨a, ha, hf⟩, hnot⟩
    · exact Or.inl ⟨hx, hnot⟩
    · exact Or.inr ⟨a, ha, hf, hnot⟩
  · rintro (⟨hx, hnot⟩ | ⟨a, ha, hf, hnot⟩)
    · exact ⟨Or.inl hx, hnot⟩
    · exact ⟨Or.inr ⟨a, ha, hf⟩, hnot⟩

/-- What has only answered errors leaves nothing but what follows. -/
private theorem leaves_bind_iff_of_not_leaves (h : ∀ e, ¬ Leaves x e) :
    Leaves (x >>= f) e ↔ ∃ a, x = .ok a ∧ Leaves (f a) e := by
  rw [leaves_bind_iff, or_iff_right (h e)]

end Leaves

-- ================================================================= texts

/-- Why a text to encrypt leaves the run. Octets never do. -/
inductive Input.Escapes : Input → Error → Prop
  /-- The option has no text. -/
  | blank : Escapes (.text .blank) (.misuse .blankText)
  /-- The text has surrogates. -/
  | surrogates {t : Text} {c : CodePoint} {first last : Nat} (run : FirstRun t c first last) :
      Escapes (.text (.value t)) (.misuse (.unencodable ⟨.utf8, c, first, last⟩))

/-- Why a password leaves the run. -/
inductive PasswordEscapes : Given Text → Error → Prop
  /-- The option has no text. -/
  | blank : PasswordEscapes .blank (.misuse .blankText)
  /-- The text has surrogates, and nothing beyond the basic multilingual
  plane, which would be answered. -/
  | surrogates {t : Text} {c : CodePoint} {first last : Nat} (plane : ∀ x ∈ t, x.val ≤ 0xFFFF)
      (run : FirstRun t c first last) :
      PasswordEscapes (.value t) (.misuse (.unencodable ⟨.utf16BigEndian, c, first, first⟩))

variable {e : Error}

theorem leaves_toBytes_iff {input : Input} : Leaves input.toBytes e ↔ input.Escapes e := by
  constructor
  · rintro ⟨h, hnot⟩
    match input, h with
    | .text .blank, h =>
      cases h
      exact .blank
    | .text (.value t), h =>
      rw [Input.toBytes, Given.orError, ok_bind] at h
      cases hencode : Utf8.encode t with
      | ok b =>
          rw [hencode] at h
          cases h
      | error place =>
          rw [hencode] at h
          cases h
          obtain ⟨c, first, last, hrun, rfl⟩ := Utf8.encode_eq_error_iff.1 hencode
          exact .surrogates hrun
  · rintro (_ | hrun)
    · exact ⟨rfl, rfl⟩
    · refine ⟨?_, rfl⟩
      rw [Input.toBytes, Given.orError, ok_bind,
        Utf8.encode_eq_error_iff.2 ⟨_, _, _, hrun, rfl⟩]

theorem leaves_passwordOctets_iff {password : Given Text} :
    Leaves (passwordOctets password) e ↔ PasswordEscapes password e := by
  constructor
  · rintro ⟨h, hnot⟩
    cases password with
    | blank =>
        cases h
        exact .blank
    | value t =>
        rw [passwordOctets, Given.orError, ok_bind] at h
        -- beyond the basic multilingual plane the error is one that is answered
        rcases Password.encode_eq_error_iff.1 h with ⟨-, rfl⟩ | ⟨hplane, c, first, last, hrun, rfl⟩
        · cases hnot
        · exact .surrogates hplane hrun
  · rintro (_ | ⟨hplane, hrun⟩)
    · exact ⟨rfl, rfl⟩
    · refine ⟨?_, rfl⟩
      rw [passwordOctets, Given.orError, ok_bind]
      exact Password.encode_eq_error_iff.2 (Or.inr ⟨hplane, _, _, _, hrun, rfl⟩)

-- ============================================================= operations

section Operations

variable {s : Settings} {a : Identifier} {octets : Bytes}

/-- Making the cipher is left for a count that no message can name. -/
theorem leaves_cipherFor_iff (octets : Bytes) :
    Leaves (cipherFor (.ok s) a octets) e ↔ e = .misuse .longNumeral ∧ Unnameable s a := by
  constructor
  · rintro ⟨h, hnot⟩
    rcases cipherFor_error_cases h with hreportable | hlong
    · rw [hreportable] at hnot
      cases hnot
    · exact hlong
  · rintro ⟨rfl, hlong⟩
    exact ⟨cipherFor_of_unnameable hlong, rfl⟩

/-- Encryption is left for such a count, since with a cipher it always goes well. -/
theorem leaves_encrypt_iff (plaintext : Bytes) :
    Leaves (encrypt (.ok s) a octets plaintext) e
      ↔ e = .misuse .longNumeral ∧ Unnameable s a := by
  rw [← leaves_cipherFor_iff octets]
  cases hkeyed : cipherFor (.ok s) a octets with
  | ok keyed =>
      rw [encrypt_of_ok hkeyed]
      exact iff_of_false (not_leaves_ok _ e) (not_leaves_ok _ e)
  | error e' => rw [encrypt_of_error hkeyed, Leaves, Leaves, Except.error.injEq, Except.error.injEq]

/-- And so is decryption: with a cipher, what goes wrong is answered. -/
theorem leaves_decrypt_iff (ciphertext : Bytes) :
    Leaves (decrypt (.ok s) a octets ciphertext) e
      ↔ e = .misuse .longNumeral ∧ Unnameable s a := by
  rw [← leaves_cipherFor_iff octets]
  cases hkeyed : cipherFor (.ok s) a octets with
  | ok keyed =>
      refine iff_of_false ?_ (not_leaves_ok _ e)
      refine not_leaves_of_isReportable (fun e' h => ?_) e
      rcases decrypt_error_cases hkeyed h with ⟨fault, rfl⟩ | rfl
      · rfl
      · rfl
  | error e' => rw [decrypt_of_error hkeyed, Leaves, Leaves, Except.error.injEq, Except.error.injEq]

/-- Reading an identifier is left for octets without a name. -/
theorem leaves_ofDer_iff {der : Bytes} :
    Leaves (Identifier.ofDer der) e ↔ e = Identifier.undotted ∧ Identifier.Nameless der := by
  rw [← Identifier.ofDer_eq_undotted_iff]
  constructor
  · rintro ⟨h, hnot⟩
    -- an identifier, a fault that is answered, or the missing name
    rcases Identifier.ofDer_cases der with ⟨a, ha⟩ | hfault | hrefused
    · rw [ha] at h
      cases h
    · rw [hfault] at h
      cases h
      cases hnot
    · rw [hrefused] at h
      cases h
      exact ⟨rfl, hrefused⟩
  · rintro ⟨rfl, h⟩
    exact ⟨h, rfl⟩

end Operations

-- ============================================================== commands

section Commands

variable {world : World} {s : Settings} {family : Given Scheme} {password : Given Text}
  {salt : Option (Given Bytes)} {iterations : Given Int} {input : Input} {a : Identifier}

/-- The identifier for an encryption, from the values of the options. -/
def prepared (world : World) (s : Settings) (family : Given Scheme) (salt : Option (Given Bytes))
    (iterations : Given Int) : Except Error Identifier := do
  let family ← family.orError (.unsupported unnamed)
  let salt ← salt.mapM (·.orError (.format .blankSalt))
  let iterations ← iterations.orError (.format .blankCount)
  Identifier.forEncryption (.ok s) world.random family.name salt (some iterations)

private theorem not_leaves_orError {α : Type} {g : Given α} {e' : Error}
    (h : e'.isReportable = true)
    (e : Error) : ¬ Leaves (g.orError e') e := by
  refine not_leaves_of_isReportable (fun e'' hg => ?_) e
  cases g with
  | value x => cases hg
  | blank =>
      cases hg
      exact h

/-- What keeps an identifier from being made is answered, at each of the four
links. -/
private theorem not_leaves_prepared (e : Error) :
    ¬ Leaves (prepared world s family salt iterations) e := by
  rw [prepared, leaves_bind_iff_of_not_leaves (not_leaves_orError rfl)]
  rintro ⟨t, -, h⟩
  have hsalt (e : Error) : ¬ Leaves (salt.mapM (·.orError (.format .blankSalt))) e := by
    refine not_leaves_of_isReportable (fun e' h => ?_) e
    match salt, h with
    | some .blank, h =>
      cases h
      rfl
  rw [leaves_bind_iff_of_not_leaves hsalt] at h
  obtain ⟨b, -, h⟩ := h
  rw [leaves_bind_iff_of_not_leaves (not_leaves_orError rfl)] at h
  obtain ⟨n, -, h⟩ := h
  refine not_leaves_of_isReportable (fun e' h => ?_) e h
  rw [(Identifier.forEncryption_eq_error h).1]
  rfl

/-- An identifier for an encryption is that of a scheme. -/
private theorem exists_scheme_of_prepared (h : prepared world s family salt iterations = .ok a) :
    ∃ t, a.algorithm = Scheme.identifier t := by
  obtain ⟨u, -, h⟩ := bind_eq_ok_iff.1 h
  obtain ⟨b, -, h⟩ := bind_eq_ok_iff.1 h
  obtain ⟨n, -, h⟩ := bind_eq_ok_iff.1 h
  obtain ⟨-, t, -, -, -, -, -, halgorithm, -⟩ := Identifier.forEncryption_eq_ok_iff.1 h
  exact ⟨t, halgorithm⟩

/-- An identifier of a scheme can be handed on if something was encrypted under
it: its parameters were read for that, so their length can be stated. -/
private theorem exists_toDer_of_encrypt {t : Scheme} {octets plaintext ciphertext : Bytes}
    (halgorithm : a.algorithm = t.identifier)
    (h : encrypt (.ok s) a octets plaintext = .ok ciphertext) : ∃ der, a.toDer = .ok der := by
  obtain ⟨keyed, hkeyed⟩ := exists_cipherFor_of_encrypt h
  obtain ⟨t', -, h⟩ := bind_eq_ok_iff.1 hkeyed
  obtain ⟨p, hp, -⟩ := bind_eq_ok_iff.1 h
  exact Identifier.exists_toDer_of_ofDer halgorithm hp

/-- An encryption is left for its text, and otherwise, if there is an
identifier, for the password or the count. -/
theorem leaves_runEncrypt_iff {e : Error} :
    Leaves (runEncrypt world s family password salt iterations input) e
      ↔ input.Escapes e
        ∨ ∃ data, input.toBytes = .ok data
          ∧ ∃ a, prepared world s family salt iterations = .ok a
            ∧ (PasswordEscapes password e
              ∨ ∃ octets, passwordOctets password = .ok octets
                ∧ e = .misuse .longNumeral ∧ Unnameable s a) := by
  -- the identifier is made in four steps, which are one link here
  have hstages : runEncrypt world s family password salt iterations input
      = (do
          let data ← input.toBytes
          let a ← prepared world s family salt iterations
          let octets ← passwordOctets password
          let ciphertext ← encrypt (.ok s) a octets data
          let der ← a.toDer
          return {
            answer := .fields [("algorithm", der.toHex), ("ciphertext", ciphertext.toHex)] }) := by
    simp only [runEncrypt, prepared, bind_assoc]
  rw [hstages, leaves_bind_iff, leaves_toBytes_iff]
  refine or_congr_right (exists_congr fun data => and_congr_right fun _ => ?_)
  rw [leaves_bind_iff_of_not_leaves not_leaves_prepared]
  refine exists_congr fun a => and_congr_right fun hprepared => ?_
  rw [leaves_bind_iff, leaves_passwordOctets_iff]
  refine or_congr_right (exists_congr fun octets => and_congr_right fun _ => ?_)
  rw [leaves_bind_iff, leaves_encrypt_iff, or_iff_left]
  -- with a ciphertext, nothing is left that could go wrong
  rintro ⟨ciphertext, hciphertext, h⟩
  obtain ⟨t, halgorithm⟩ := exists_scheme_of_prepared hprepared
  obtain ⟨der, hder⟩ := exists_toDer_of_encrypt halgorithm hciphertext
  rw [hder, ok_bind] at h
  exact not_leaves_ok _ e h

/-- A decryption is left for octets without a name, and otherwise, if they are
an identifier, for the password or the count. -/
theorem leaves_runDecrypt_iff {algorithm data : Bytes} {e : Error} :
    Leaves (runDecrypt s algorithm password data) e
      ↔ (e = Identifier.undotted ∧ Identifier.Nameless algorithm)
        ∨ ∃ a, Identifier.ofDer algorithm = .ok a
          ∧ (PasswordEscapes password e
            ∨ ∃ octets, passwordOctets password = .ok octets
              ∧ e = .misuse .longNumeral ∧ Unnameable s a) := by
  rw [runDecrypt, leaves_bind_iff, leaves_ofDer_iff]
  refine or_congr_right (exists_congr fun a => and_congr_right fun _ => ?_)
  rw [leaves_bind_iff, leaves_passwordOctets_iff]
  refine or_congr_right (exists_congr fun octets => and_congr_right fun _ => ?_)
  rw [leaves_bind_iff, leaves_decrypt_iff, or_iff_left]
  rintro ⟨plaintext, -, h⟩
  exact not_leaves_ok _ e h

end Commands

end Pkcs12.Cli
