/-
The command line, there and back.

# The way

What is printed for an encryption are the encoded identifier and the
ciphertext. Handed to a decryption with the same password, they lead back to
what was encrypted, in five steps, each of which is a law of the part it is
about:

- the request makes a command with its password and its message, in whatever
  order its options come (`Request.exists_command`);
- what that command prints determines the encoded identifier and the
  ciphertext (`Answer.render_octets_injective`);
- the reply makes a command with just these (`readArguments_reply`);
- the encoded identifier leads back to the identifier
  (`Identifier.exists_toDer_of_scheme`), and from there to the same cipher;
- under one cipher, what was encrypted is decrypted (`decrypt_of_encrypt`),
  and a text is shown as it was (`Utf8.decodeLossy_encode`).

`exists_of_runEncrypt` has the last two, for the command by itself.

# What is assumed

Neither the order of the options nor the form of either output matters, and
the only thing that both runs have to agree on is the environment: the second
run draws nothing, and it has no use for the time. Of the encoded identifier
it is asked that its length can be stated, for beyond that it cannot be read.
-/
import Pkcs12.Proofs.Algorithm.Length
import Pkcs12.Proofs.Cli.Answer
import Pkcs12.Proofs.Cli.Request
import Pkcs12.Proofs.Cli.Run
import Pkcs12.Proofs.Encryption.Failure
import Pkcs12.Proofs.Text.Utf8

namespace Pkcs12.Cli

open Pkcs12.Outcome (ok_bind bind_eq_ok_iff)

-- ============================================================= commands

/-- An encryption that goes well has read its input, and what it answers leads back
to that input: the identifier can be read, the password has octets, and with
them the ciphertext is decrypted to the input. -/
theorem exists_of_runEncrypt {world : World} {settings : Settings} {family : Given Scheme}
    {password : Given Text} {salt : Option (Given Bytes)} {iterations : Given Int} {input : Input}
    {done : Done} (h : runEncrypt world settings family password salt iterations input = .ok done) :
    ∃ data algorithm ciphertext, input.toBytes = .ok data
      ∧ done = ⟨0, .octets "algorithm" "ciphertext" algorithm ciphertext, []⟩
      ∧ (algorithm.length < Der.lengthBound →
          ∃ a octets, Identifier.ofDer algorithm = .ok a ∧ passwordOctets password = .ok octets
            ∧ decrypt (.ok settings) a octets ciphertext = .ok data) := by
  rw [runEncrypt] at h
  obtain ⟨data, hdata, h⟩ := bind_eq_ok_iff.1 h
  obtain ⟨scheme, -, h⟩ := bind_eq_ok_iff.1 h
  obtain ⟨salt, -, h⟩ := bind_eq_ok_iff.1 h
  obtain ⟨iterations, -, h⟩ := bind_eq_ok_iff.1 h
  obtain ⟨a, hnew, h⟩ := bind_eq_ok_iff.1 h
  obtain ⟨octets, hoctets, h⟩ := bind_eq_ok_iff.1 h
  obtain ⟨ciphertext, henc, h⟩ := bind_eq_ok_iff.1 h
  obtain ⟨der, hder, h⟩ := bind_eq_ok_iff.1 h
  cases h
  refine ⟨data, der, ciphertext, hdata, rfl, ?_⟩
  intro hlength
  -- the identifier was made for a scheme, so it is read again
  obtain ⟨s, t, p, -, -, -, -, halgorithm, hparameters⟩ :=
    Identifier.forEncryption_eq_ok_iff.1 hnew
  -- the encoded identifier has room for its parameters, so these are read too
  have hroom := Identifier.length_parameters_lt hparameters hder hlength
  obtain ⟨⟨der', hder', hread⟩, -, -⟩ :=
    Identifier.exists_toDer_of_scheme halgorithm hparameters hroom
  rw [hder] at hder'
  cases hder'
  obtain ⟨⟨c, iv⟩, hkeyed⟩ := exists_cipherFor_of_encrypt henc
  exact ⟨a, octets, hread, hoctets, decrypt_of_encrypt hkeyed henc⟩

/-- The text that is shown for octets, with a stand-in for what is no text. -/
def shownText (b : Bytes) : String :=
  String.ofList (Utf8.decodeLossy b)

/-- The text of a message is what is shown for its octets. -/
private theorem shownText_of_denotes {m : Message} {b : Bytes} (h : m.Denotes b) {t : Text}
    (hm : m = .text t) : Text.ofString (shownText b) = t := by
  subst hm
  exact Utf8.decodeLossy_encode h

/-- What the command line encrypts, the command line decrypts. When a
request to encrypt, its options in any order, ends with an exit code of
zero, an encoded identifier and a ciphertext were printed; and a request to
decrypt these with the same password, again in any order and in either form,
ends with an exit code of zero in every world with the same environment. It
prints the octets of the message, and the message itself if that was a text.
Of the encoded identifier it is asked that its length can be stated. -/
theorem decrypt_after_encrypt (r : Request) {given : List Argument} {world later : World}
    {outcome : Outcome} (hgiven : given.Perm r.arguments)
    (hsame : later.environment = world.environment)
    (hrun : (start .direct world (commandLine .encrypt given)).1 = .ok (.finished outcome))
    (hexit : outcome.exit = 0) :
    (∃ algorithm ciphertext,
        outcome.output
          = (Answer.octets "algorithm" "ciphertext" algorithm ciphertext).render r.json)
      ∧ ∀ algorithm ciphertext,
        outcome.output
          = (Answer.octets "algorithm" "ciphertext" algorithm ciphertext).render r.json →
        algorithm.length < Der.lengthBound →
        ∃ b plaintext, r.message.Denotes b
          ∧ (∀ t, r.message = .text t → Text.ofString plaintext = t)
          ∧ ∀ json reply, reply.Perm (replyArguments r.password algorithm ciphertext json) →
              (start .direct later (commandLine .decrypt reply)).1
                = .ok (.finished {
                    exit := 0
                    output := (Answer.fields [("plaintext", plaintext),
                      ("plaintext_hex", b.toHex)]).render json }) := by
  obtain ⟨settings, i, done, log, hsettings, hread, hdone, rfl⟩ := exists_done hrun hexit
  obtain ⟨family, salt, iterations, input, rfl, hbytes⟩ := r.exists_command hgiven hread
  have hencrypt : runEncrypt world settings family (givenText r.password) salt iterations input
      = .ok done := congrArg Prod.fst hdone
  obtain ⟨b, algorithm, ciphertext, hdata, rfl, hdecrypt⟩ := exists_of_runEncrypt hencrypt
  refine ⟨⟨algorithm, ciphertext, rfl⟩, ?_⟩
  intro algorithm' ciphertext' hprinted hlength
  obtain ⟨rfl, rfl⟩ := Answer.render_octets_injective hprinted
  obtain ⟨a, octets, hidentifier, hpassword, hplaintext⟩ := hdecrypt hlength
  have hdenotes := hbytes b hdata
  refine ⟨b, shownText b, hdenotes, fun t => shownText_of_denotes hdenotes, ?_⟩
  intro json reply hreply
  -- the reply is decrypted under the identifier that was read
  have hcommand : runDecrypt settings algorithm (givenText r.password) ciphertext
      = .ok ⟨0, .fields [("plaintext", shownText b), ("plaintext_hex", b.toHex)], []⟩ := by
    rw [runDecrypt, hidentifier, ok_bind, hpassword, ok_bind, hplaintext, ok_bind]
    rfl
  rw [← hsame] at hsettings
  exact start_of_ok hsettings (readArguments_reply settings hreply)
    (congrArg (fun x => (x, [])) hcommand)

-- ============================================================= instance

/-- A request with an empty salt, for a text beyond ASCII. -/
def Request.saltless : Request where
  family := some (Text.ofString Scheme.rc2.name)
  password := Text.ofString "secret"
  salt := some []
  iterations := some (Text.ofString "1")
  message := .text (Text.ofString "né")
  json := false

/-- The encoded form of the saltless identifier: its name, no salt, and one
iteration. -/
def saltlessDer : Bytes :=
  [0x30, 0x13, 0x06, 0x0A, 0x2A, 0x86, 0x48, 0x86, 0xF7, 0x0D, 0x01, 0x0C, 0x01, 0x06,
    0x30, 0x05, 0x04, 0x00, 0x02, 0x01, 0x01]

/-- The saltless request is carried out. Its ciphertext is left open, for only its
being there matters. -/
private theorem exists_runEncrypt_saltless :
    ∃ ciphertext,
      (start .direct World.bare (commandLine .encrypt Request.saltless.arguments)).1
        = .ok (.finished
            (Done.outcome ⟨0, .octets "algorithm" "ciphertext" saltlessDer ciphertext, []⟩
              false)) := by
  have hread : readArguments Settings.standard
      (commandLine .encrypt Request.saltless.arguments)
      = .ok ⟨.encrypt (.value .rc2) (.value (Text.ofString "secret")) (some (.value []))
          (.value 1) (.text (.value (Text.ofString "né"))), false⟩ := rfl
  have hnew : Identifier.forEncryption (.ok Settings.standard) World.bare.random Scheme.rc2.name
      (some []) (some 1) = .ok Identifier.saltless :=
    Identifier.forEncryption_eq_ok_iff.2 ⟨Settings.standard, .rc2, ⟨[], 1, by decide⟩, rfl, rfl,
      rfl, rfl, rfl, by decide +kernel⟩
  have hdata : (Input.text (.value (Text.ofString "né"))).toBytes = .ok [0x6E, 0xC3, 0xA9] := rfl
  have hsalt : (some (Given.value ([] : Bytes))).mapM (·.orError (.format .blankSalt))
      = Except.ok (some []) := rfl
  have hpassword : passwordOctets (.value (Text.ofString "secret"))
      = .ok (Password.octets (Text.ofString "secret")) := rfl
  have hder : Identifier.saltless.toDer = .ok saltlessDer := by decide +kernel
  obtain ⟨⟨c, iv⟩, hkeyed⟩ :=
    Identifier.exists_cipherFor_saltless (Password.octets (Text.ofString "secret"))
  have henc := encrypt_of_ok hkeyed [0x6E, 0xC3, 0xA9]
  have hrun : runEncrypt World.bare Settings.standard (.value .rc2)
      (.value (Text.ofString "secret")) (some (.value [])) (.value 1)
      (.text (.value (Text.ofString "né"))) = .ok ⟨0, .octets "algorithm" "ciphertext" saltlessDer
        (Chaining.encrypted c iv (Padding.padded [0x6E, 0xC3, 0xA9])), []⟩ := by
    rw [runEncrypt, hdata, ok_bind, Given.orError, ok_bind, hsalt, ok_bind, Given.orError, ok_bind,
      hnew, ok_bind, hpassword, ok_bind, henc, ok_bind, hder]
    rfl
  exact ⟨_, start_of_ok rfl hread (congrArg (fun x => (x, [])) hrun)⟩

/-- The text comes back, although the second run prints a record. -/
theorem decrypt_after_encrypt_saltless :
    ∃ outcome ciphertext b plaintext,
      (start .direct World.bare (commandLine .encrypt Request.saltless.arguments)).1
          = .ok (.finished outcome)
        ∧ outcome.exit = 0
        ∧ outcome.output
          = (Answer.octets "algorithm" "ciphertext" saltlessDer ciphertext).render false
        ∧ saltlessDer.length < Der.lengthBound
        ∧ Utf8.encode (Text.ofString "né") = .ok b ∧ Text.ofString plaintext = Text.ofString "né"
        ∧ (start .direct World.bare (commandLine .decrypt
              (replyArguments (Text.ofString "secret") saltlessDer ciphertext true))).1
          = .ok (.finished {
              exit := 0
              output := (Answer.fields [("plaintext", plaintext),
                ("plaintext_hex", b.toHex)]).render true }) := by
  obtain ⟨ciphertext, hrun⟩ := exists_runEncrypt_saltless
  have hlength : saltlessDer.length < Der.lengthBound := by decide
  obtain ⟨-, hreply⟩ := decrypt_after_encrypt Request.saltless (List.Perm.refl _)
    (rfl : World.bare.environment = World.bare.environment) hrun rfl
  obtain ⟨b, plaintext, hdenotes, htext, hdecrypt⟩ := hreply saltlessDer ciphertext rfl hlength
  exact ⟨_, ciphertext, b, plaintext, hrun, rfl, rfl, hlength, hdenotes, htext _ rfl,
    hdecrypt true _ (List.Perm.refl _)⟩

end Pkcs12.Cli
