/-
What the two commands of a round trip are asked for.

# Requests and replies

A `Request` to encrypt has a password and a message, and may have a family, a
salt, a count and a form of output; its message is a text, or octets in some
spelling of theirs. A reply hands on what was printed, to be decrypted, and is
given by its values alone. Both are lists of options written out in full, and
the options are different ones (`opts_arguments`, `opts_replyArguments`), so
`Proofs.Cli.Choices` applies: in whatever order they come, the command has the
values that they give.

# What the commands are

For a request, `exists_command` says no more than the round trip needs: the
password is the one of the request, and the input has the octets of its
message if it has any. The family, the salt and the count may be anything that
can be read. For a reply, `readArguments_reply` says which command it is, and
that there is one: all of its values can be read.

Two hyphens as a value give nothing (`givenText`), for a password as for a
text. Both commands treat the password alike, so the round trip is not
concerned, and a text that is missing has no octets.
-/
import Pkcs12.Cli.Run
import Pkcs12.Proofs.Cli.Choices
import Pkcs12.Proofs.Text.Hex

namespace Pkcs12.Cli

open Pkcs12.Outcome (ok_bind bind_eq_ok_iff)

-- ============================================================= requests

/-- What to encrypt, as the command line says it: a text, or octets in some
spelling of theirs. -/
inductive Message where
  | text (t : Text)
  | octets (spelling : Text) (value : Bytes) (spells : Hex.decode spelling = some value)

namespace Message

def argument : Message → Argument
  | .text t => ⟨.inText, some t, rfl⟩
  | .octets spelling _ _ => ⟨.inHex, some spelling, rfl⟩

/-- The octets that a message stands for. A text stands for those of its encoding,
and for none if it has no encoding. -/
def Denotes : Message → Bytes → Prop
  | .text t, b => Utf8.encode t = .ok b
  | .octets _ value _, b => b = value

end Message

def formArguments (json : Bool) : List Argument :=
  if json then [⟨.json, none, rfl⟩] else []

/-- An option that may be left out, with its value if it is not. -/
def attachedTo (o : Opt) (h : o.takesValue = true) : Option Text → List Argument
  | none => []
  | some t => [⟨o, some t, h⟩]

/-- A request to encrypt: what its options say, before any of it is read. -/
structure Request where
  family : Option Text
  password : Text
  salt : Option Text
  iterations : Option Text
  message : Message
  json : Bool

/-- The options of a request, in some order. -/
def Request.arguments (r : Request) : List Argument :=
  ⟨.password, some r.password, rfl⟩ :: r.message.argument
    :: (attachedTo .family rfl r.family ++ attachedTo .salt rfl r.salt
      ++ attachedTo .iterations rfl r.iterations ++ formArguments r.json)

/-- The options to decrypt what was printed, in some order. -/
def replyArguments (password : Text) (algorithm ciphertext : Bytes) (json : Bool) : List Argument :=
  ⟨.password, some password, rfl⟩
    :: ⟨.algorithmHex, some (Text.ofString algorithm.toHex), rfl⟩
    :: ⟨.inHex, some (Text.ofString ciphertext.toHex), rfl⟩
    :: formArguments json

/-- A command with options. -/
def commandLine (verb : Verb) (given : List Argument) : List Text :=
  Text.ofString verb.word :: given.map Argument.text

-- =============================================================== values

/-- The value that a text gives; two hyphens alone give none. -/
def givenText (t : Text) : Given Text :=
  if t = Text.ofString "--" then .blank else .value t

/-- A text is always read, as a value or as none. -/
private theorem readText_eq (t : Text) : readText t = .ok (givenText t) := by
  rw [readText, Given.read?, givenText]
  split <;> rfl

/-- Octets are read from any spelling of theirs, and two hyphens are none. -/
private theorem readOctets_of_decode {spelling : Text} {value : Bytes}
    (h : Hex.decode spelling = some value) : readOctets spelling = .ok (.value value) := by
  have hseparator : spelling ≠ Text.ofString "--" := by
    rintro rfl
    cases h
  rw [readOctets, Given.read?, if_neg hseparator, h]
  rfl

/-- Octets that are put in place of none are read likewise. -/
private theorem readOctets_getD_of_decode {spelling : Text} {value : Bytes}
    (h : Hex.decode spelling = some value) :
    (do return (← readOctets spelling).getD []) = Except.ok value := by
  rw [readOctets_of_decode h]
  rfl

/-- The form of output is chosen by its option, or left out with it. -/
theorem json_of_follows {c : Choices} {json : Bool} (h : c.Follows (formArguments json))
    (hopen : json = false → c.chosen .json = none) : c.json = json := by
  rw [Choices.json_eq]
  cases json with
  | false => rw [hopen rfl, Option.isSome_none]
  | true =>
      obtain ⟨x, -, hx⟩ := h _ (List.mem_singleton.2 rfl)
      rw [hx, Option.isSome_some]

-- ============================================================ encryption

namespace Request

variable {r : Request} {given : List Argument} {settings : Settings}

/-- The options of a request are different options for encryption; one that
has a text gives no octets, and the form may be left out. -/
theorem opts_arguments (r : Request) :
    (r.arguments.map Argument.opt).Nodup ∧ (∀ a ∈ r.arguments, a.opt ∈ Verb.encrypt.options)
      ∧ (∀ t, r.message = .text t → .inHex ∉ r.arguments.map Argument.opt)
      ∧ (r.json = false → .json ∉ r.arguments.map Argument.opt) := by
  obtain ⟨family, password, salt, iterations, message, json⟩ := r
  cases family <;> cases salt <;> cases iterations <;> cases message <;> cases json <;>
    simp [Request.arguments, attachedTo, formArguments, Message.argument, Verb.options]

/-- A text to encrypt has the octets of its encoding, or there is none. -/
private theorem denotes_of_givenText {t : Text} {b : Bytes}
    (h : (Input.text (givenText t)).toBytes = .ok b) : Utf8.encode t = .ok b := by
  rw [Input.toBytes, givenText] at h
  split at h
  · cases h
  · rw [Given.orError, ok_bind] at h
    split at h
    next encoded hencode =>
      cases h
      exact hencode
    · cases h

/-- The input that is chosen has the octets of the message. -/
private theorem exists_input {c : Choices} (hfollows : c.Follows r.arguments)
    (hopen : ∀ o ∉ r.arguments.map Argument.opt, c.chosen o = none) :
    ∃ input, c.input? = some input ∧ ∀ b, input.toBytes = .ok b → r.message.Denotes b := by
  obtain ⟨-, -, hnone, -⟩ := r.opts_arguments
  -- of the two options for a message, the other one is left out
  have hmessage : r.message.argument ∈ r.arguments := List.mem_cons_of_mem _ List.mem_cons_self
  cases hform : r.message with
  | text t =>
      rw [hform] at hmessage
      have htext : c.inText = some (givenText t) := hfollows.chosen_eq hmessage (readText_eq t)
      have hoctets : c.inHex = none := hopen .inHex (hnone t hform)
      exact ⟨.text (givenText t), by rw [Choices.input?, hoctets, htext],
        fun b => denotes_of_givenText⟩
  | octets spelling value spells =>
      rw [hform] at hmessage
      have hoctets : c.inHex = some value :=
        hfollows.chosen_eq hmessage (readOctets_getD_of_decode spells)
      refine ⟨.octets value, by rw [Choices.input?, hoctets], ?_⟩
      intro b hb
      exact (Except.ok.inj hb).symm

/-- The command that a request makes, in whatever order its options come. It has
the password and the form of output of the request, and its input, if that has
octets, has those of the message. -/
theorem exists_command {i : Invocation} (hgiven : given.Perm r.arguments)
    (h : readArguments settings (commandLine .encrypt given) = .ok i) :
    ∃ family salt iterations input,
      i = ⟨.encrypt family (givenText r.password) salt iterations input, r.json⟩
        ∧ ∀ b, input.toBytes = .ok b → r.message.Denotes b := by
  obtain ⟨hdistinct, hoptions, -, hform⟩ := r.opts_arguments
  rw [commandLine, readArguments_texts settings .encrypt fun a ha =>
    hoptions a (hgiven.mem_iff.1 ha)] at h
  obtain ⟨c, hc, h⟩ := bind_eq_ok_iff.1 h
  obtain ⟨hfollows, hopen, hsuperfluous⟩ := Argument.follows_of_perm hgiven hdistinct hc
  obtain ⟨input, hinput, hbytes⟩ := exists_input hfollows hopen
  have hpassword : c.password = some (givenText r.password) :=
    hfollows.chosen_eq List.mem_cons_self (readText_eq r.password)
  have hjson : c.json = r.json := json_of_follows
    (fun a ha => hfollows a (by simp [Request.arguments, ha])) fun h => hopen .json (hform h)
  -- whatever was chosen for the rest, the command has it
  rw [Choices.command, hpassword, hinput] at h
  simp only [demand, ok_bind, hsuperfluous] at h
  cases h
  exact ⟨_, _, _, input, by rw [hjson], hbytes⟩

end Request

-- ============================================================ decryption

section Reply

variable (password : Text) (algorithm ciphertext : Bytes) (json : Bool)

/-- The options of a reply are different options for decryption. -/
private theorem opts_replyArguments :
    ((replyArguments password algorithm ciphertext json).map Argument.opt).Nodup
      ∧ (∀ a ∈ replyArguments password algorithm ciphertext json,
          a.opt ∈ Verb.decrypt.options ∧ a.opt ≠ .inText)
      ∧ (json = false →
          .json ∉ (replyArguments password algorithm ciphertext json).map Argument.opt) := by
  cases json <;> simp [replyArguments, formArguments, Verb.options]

private theorem exists_read_of_mem_reply :
    ∀ a ∈ replyArguments password algorithm ciphertext json, ∃ x, a.read = .ok x := by
  intro a ha
  rw [replyArguments, List.mem_cons, List.mem_cons, List.mem_cons] at ha
  rcases ha with rfl | rfl | rfl | ha
  · exact ⟨_, readText_eq password⟩
  · exact ⟨_, readOctets_getD_of_decode algorithm.decode_toHex⟩
  · exact ⟨_, readOctets_getD_of_decode ciphertext.decode_toHex⟩
  · cases json with
    | false => cases ha
    | true =>
        rw [List.mem_singleton.1 ha]
        exact ⟨(), rfl⟩

variable {password algorithm ciphertext json}

/-- A reply makes a command, in whatever order its options come, and the command
has the values of the reply. -/
theorem readArguments_reply (settings : Settings) {given : List Argument}
    (hgiven : given.Perm (replyArguments password algorithm ciphertext json)) :
    readArguments settings (commandLine .decrypt given)
      = .ok ⟨.decrypt algorithm (givenText password) ciphertext, json⟩ := by
  obtain ⟨hdistinct, hoptions, hform⟩ := opts_replyArguments password algorithm ciphertext json
  have hreadable := exists_read_of_mem_reply password algorithm ciphertext json
  -- no text is given, and every value can be read, so all are taken up
  obtain ⟨c, hc⟩ := Argument.exists_foldlM_takeUp (c := {}) rfl fun a ha =>
    ⟨(hoptions a (hgiven.mem_iff.1 ha)).2, hreadable a (hgiven.mem_iff.1 ha)⟩
  obtain ⟨hfollows, hopen, hsuperfluous⟩ := Argument.follows_of_perm hgiven hdistinct hc
  have hpassword : c.password = some (givenText password) :=
    hfollows.chosen_eq List.mem_cons_self (readText_eq password)
  have halgorithm : c.algorithmHex = some algorithm :=
    hfollows.chosen_eq (List.mem_cons_of_mem _ List.mem_cons_self)
      (readOctets_getD_of_decode algorithm.decode_toHex)
  have hciphertext : c.inHex = some ciphertext :=
    hfollows.chosen_eq (List.mem_cons_of_mem _ (List.mem_cons_of_mem _ List.mem_cons_self))
      (readOctets_getD_of_decode ciphertext.decode_toHex)
  have hjson : c.json = json := json_of_follows
    (fun a ha => hfollows a (by simp [replyArguments, ha])) fun h => hopen .json (hform h)
  rw [commandLine, readArguments_texts settings .decrypt fun a ha =>
    (hoptions a (hgiven.mem_iff.1 ha)).1, hc, ok_bind, Choices.command, hpassword, halgorithm,
    hciphertext]
  simp only [demand, ok_bind, hsuperfluous, hjson]
  rfl

end Reply

end Pkcs12.Cli
