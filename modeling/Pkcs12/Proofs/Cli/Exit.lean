/-
How a direct run ends, whatever the environment and the arguments.

# What the result says

Without settings, or without a command, a run is finished at once. A command
that is carried out, or that fails for a reason that can be reported, finishes
it with the exit code for that. What remains are the errors that leave it,
and these are few: a value that is missing, a text without an encoded form, an
encoded identifier that has no name, a count or a salt beyond what can be
written, and a number of trials that is not accepted. `Escapes` lists them,
with what must have gone well before each, and `Exits` lists the exit codes;
`start_exits_or_escapes` says that nothing else happens.

# How it is proved

`Proofs.Cli.Escape` has the errors that leave a chain of computations, link by
link. Here they are put in the form of the list (`leaves_run_iff`), which is
an inversion for each command, and then carried from a command to a run
(`start_eq_error_iff`): an error that can be reported is answered by the run,
and any other leaves it.

One reason needs more than that. The count of an encryption is written into an
identifier and read back from it, so it may be another one if the length of
the salt cannot be stated. Counts from the command line can be named
(`nameable_of_readArguments`), so an encryption is left for a count only with
such a salt (`not_unnameable_of_prepared`), and that is what the list says.

Reports that are to be written are left out: whether a file can be written is
a matter of the directory.
-/
import Pkcs12.Proofs.Cli.Counts
import Pkcs12.Proofs.Cli.Escape
import Pkcs12.Proofs.Cli.RoundTrip
import Pkcs12.Proofs.Cli.Selftest

namespace Pkcs12.Cli

open Pkcs12.Outcome (ok_bind bind_eq_ok_iff)

variable {world : World} {s : Settings} {command : Command} {i : Invocation} {e : Error}
  {arguments : List Text} {log later : Log} {done : Done}

-- =============================================================== escapes

/-- The salt of an encryption: the one that is given, or as many random octets as
the settings ask for. -/
def saltOctets (world : World) (s : Settings) : Option (Given Bytes) → Bytes
  | some (.value salt) => salt
  | _ => world.random s.saltSize

/-- The count of an encryption can be named if its salt has a length that can
be stated. -/
private theorem not_unnameable_of_prepared {family : Given Scheme} {salt : Option (Given Bytes)}
    {iterations : Given Int} {a : Identifier}
    (h : prepared world s family salt iterations = .ok a) (hcount : iterations.Nameable)
    (hsalt : (saltOctets world s salt).length < Der.lengthBound) : ¬ Unnameable s a := by
  obtain ⟨t, -, h⟩ := bind_eq_ok_iff.1 h
  obtain ⟨b, hb, h⟩ := bind_eq_ok_iff.1 h
  obtain ⟨n, hn, h⟩ := bind_eq_ok_iff.1 h
  refine not_unnameable_of_forEncryption h ?_ ?_
  · match salt, hb with
    | none, hb =>
      cases hb
      exact hsalt
    | some (.value salt), hb =>
      cases hb
      exact hsalt
  · cases iterations with
    | blank => cases hn
    | value m =>
        cases hn
        exact hcount n rfl

/-- Why a command leaves the run. -/
inductive Escapes (world : World) (s : Settings) : Command → Error → Prop
  /-- The text to encrypt is missing or has no octets. -/
  | text {family : Given Scheme} {password : Given Text} {salt : Option (Given Bytes)}
      {iterations : Given Int} {input : Input} {e : Error} (reason : input.Escapes e) :
      Escapes world s (.encrypt family password salt iterations input) e
  /-- There is something to encrypt and an identifier to encrypt it under,
  but the password is missing or has no octets. -/
  | encryption {family : Given Scheme} {password : Given Text} {salt : Option (Given Bytes)}
      {iterations : Given Int} {input : Input} {data : Bytes} {a : Identifier} {e : Error}
      (encoded : input.toBytes = .ok data) (made : prepared world s family salt iterations = .ok a)
      (reason : PasswordEscapes password e) :
      Escapes world s (.encrypt family password salt iterations input) e
  /-- The salt has a length that the encoding cannot state, and what is read
  back in place of the count cannot be named. -/
  | salt {family : Given Scheme} {password : Given Text} {salt : Option (Given Bytes)}
      {iterations : Given Int} {input : Input} {data octets : Bytes} {a : Identifier}
      (encoded : input.toBytes = .ok data) (made : prepared world s family salt iterations = .ok a)
      (given : passwordOctets password = .ok octets)
      (long : Der.lengthBound ≤ (saltOctets world s salt).length) (count : Unnameable s a) :
      Escapes world s (.encrypt family password salt iterations input) (.misuse .longNumeral)
  /-- The octets are an identifier but for its name. -/
  | name {algorithm data : Bytes} {password : Given Text}
      (nameless : Identifier.Nameless algorithm) :
      Escapes world s (.decrypt algorithm password data) Identifier.undotted
  /-- There is an identifier to decrypt under, but the password is missing or
  has no octets. -/
  | decryption {algorithm data : Bytes} {password : Given Text} {a : Identifier} {e : Error}
      (read : Identifier.ofDer algorithm = .ok a) (reason : PasswordEscapes password e) :
      Escapes world s (.decrypt algorithm password data) e
  /-- The count of the identifier is above the configured maximum, and too
  long for the message that says so. -/
  | count {algorithm data octets : Bytes} {password : Given Text} {a : Identifier}
      (read : Identifier.ofDer algorithm = .ok a)
      (given : passwordOctets password = .ok octets) (count : Unnameable s a) :
      Escapes world s (.decrypt algorithm password data) (.misuse .longNumeral)
  /-- A value of the self-check is missing or not accepted. -/
  | selftest {vectors seed iterations : Given Int} {report : Option Text} {save : Bool} {e : Error}
      (reason : SelftestEscapes world.memory vectors seed iterations e) :
      Escapes world s (.selftest vectors seed iterations report save) e

/-- A command that writes no report. -/
def Command.WithoutReport : Command → Prop
  | .selftest _ _ _ report save => report = none ∧ save = false
  | _ => True

section Inversion

variable {family : Given Scheme} {password : Given Text} {salt : Option (Given Bytes)}
  {iterations : Given Int} {input : Input} {algorithm data : Bytes}

/-- The list says of an encryption what the chain of its links does: a text first,
then a password, then a count. -/
theorem escapes_encrypt_iff :
    Escapes world s (.encrypt family password salt iterations input) e
      ↔ input.Escapes e
        ∨ ∃ data, input.toBytes = .ok data
          ∧ ∃ a, prepared world s family salt iterations = .ok a
            ∧ (PasswordEscapes password e
              ∨ ∃ octets, passwordOctets password = .ok octets ∧ e = .misuse .longNumeral
                ∧ Der.lengthBound ≤ (saltOctets world s salt).length ∧ Unnameable s a) := by
  constructor
  · intro h
    cases h with
    | text htext => exact Or.inl htext
    | encryption hdata ha hpassword => exact Or.inr ⟨_, hdata, _, ha, Or.inl hpassword⟩
    | salt hdata ha hoctets hsalt hlong =>
        exact Or.inr ⟨_, hdata, _, ha, Or.inr ⟨_, hoctets, rfl, hsalt, hlong⟩⟩
  · rintro (htext | ⟨data, hdata, a, ha, hpassword | ⟨octets, hoctets, rfl, hsalt, hlong⟩⟩)
    · exact .text htext
    · exact .encryption hdata ha hpassword
    · exact .salt hdata ha hoctets hsalt hlong

theorem escapes_decrypt_iff :
    Escapes world s (.decrypt algorithm password data) e
      ↔ (e = Identifier.undotted ∧ Identifier.Nameless algorithm)
        ∨ ∃ a, Identifier.ofDer algorithm = .ok a
          ∧ (PasswordEscapes password e
            ∨ ∃ octets, passwordOctets password = .ok octets
              ∧ e = .misuse .longNumeral ∧ Unnameable s a) := by
  constructor
  · intro h
    cases h with
    | name hnameless => exact Or.inl ⟨rfl, hnameless⟩
    | decryption ha hpassword => exact Or.inr ⟨_, ha, Or.inl hpassword⟩
    | count ha hoctets hlong => exact Or.inr ⟨_, ha, Or.inr ⟨_, hoctets, rfl, hlong⟩⟩
  · rintro (⟨rfl, hnameless⟩ | ⟨a, ha, hpassword | ⟨octets, hoctets, rfl, hlong⟩⟩)
    · exact .name hnameless
    · exact .decryption ha hpassword
    · exact .count ha hoctets hlong

theorem escapes_selftest_iff {vectors seed : Given Int} {report : Option Text} {save : Bool} :
    Escapes world s (.selftest vectors seed iterations report save) e
      ↔ SelftestEscapes world.memory vectors seed iterations e := by
  refine ⟨fun h => ?_, .selftest⟩
  cases h with
  | selftest hreason => exact hreason

end Inversion

/-- These are the errors that leave a command which writes no report. -/
theorem leaves_run_iff (hreport : command.WithoutReport) (hcount : command.Nameable) (log : Log) :
    Leaves ((command.run world s).run.run log).1 e ↔ Escapes world s command e := by
  cases command with
  | families => exact iff_of_false (not_leaves_ok _ e) fun h => (nomatch h)
  | encrypt family password salt iterations input =>
      -- link by link the two lists agree, up to the salt
      refine leaves_runEncrypt_iff.trans (Iff.trans ?_ escapes_encrypt_iff.symm)
      refine or_congr_right (exists_congr fun data => and_congr_right fun _ =>
        exists_congr fun a => and_congr_right fun ha => or_congr_right ?_)
      -- the count was given on the command line, so it is the salt that is too long
      have hsalt (hlong : Unnameable s a) :
          Der.lengthBound ≤ (saltOctets world s salt).length :=
        Nat.not_lt.1 fun hlt => not_unnameable_of_prepared ha hcount hlt hlong
      exact exists_congr fun octets => and_congr_right fun _ => and_congr_right fun _ =>
        (and_iff_right_of_imp hsalt).symm
  | decrypt algorithm password data =>
      exact leaves_runDecrypt_iff.trans escapes_decrypt_iff.symm
  | selftest vectors seed iterations report save =>
      obtain ⟨rfl, rfl⟩ := hreport
      exact (leaves_runSelftest_iff hcount log).trans escapes_selftest_iff.symm

-- ============================================================ exit codes

/-- What a command finds fault with although it is carried out: only a
self-check does, if some trial has no ciphertext. -/
def Command.Finds (world : World) (s : Settings) : Command → Prop
  | .selftest vectors seed iterations _ _ => SomeTrialFails world.memory s vectors seed iterations
  | _ => False

/-- The exit code of a command that does not leave the run. -/
inductive Exits (world : World) (s : Settings) (command : Command) : Nat → Prop
  /-- It is carried out and finds no fault. -/
  | success {done : Done} {later : Log}
      (carriedOut : (command.run world s).run.run [] = (.ok done, later))
      (clean : ¬ command.Finds world s) : Exits world s command 0
  /-- It is carried out and finds a fault. -/
  | fault {done : Done} {later : Log}
      (carriedOut : (command.run world s).run.run [] = (.ok done, later))
      (found : command.Finds world s) : Exits world s command 1
  /-- What it was to decrypt is not accepted. -/
  | decryption {later : Log}
      (failed : (command.run world s).run.run [] = (.error .decryption, later)) :
      Exits world s command 1
  /-- It fails for any other reason. -/
  | failure {e : Error} {later : Log}
      (failed : (command.run world s).run.run [] = (.error e, later)) (other : e ≠ .decryption) :
      Exits world s command 2

private theorem exit_of_runDecrypt {algorithm data : Bytes} {password : Given Text}
    (h : runDecrypt s algorithm password data = .ok done) : done.exit = 0 := by
  obtain ⟨a, -, h⟩ := bind_eq_ok_iff.1 h
  obtain ⟨octets, -, h⟩ := bind_eq_ok_iff.1 h
  obtain ⟨plaintext, -, h⟩ := bind_eq_ok_iff.1 h
  cases h
  rfl

/-- A command that is carried out has an exit code of zero, unless it finds a
fault. -/
private theorem exits_of_ok (hreport : command.WithoutReport) (hcount : command.Nameable)
    (hrun : (command.run world s).run.run [] = (.ok done, later)) :
    Exits world s command done.exit := by
  -- but for a self-check, an exit code of zero is all there is to show
  have hzero (hexit : done.exit = 0) (hclean : ¬ command.Finds world s) :
      Exits world s command done.exit := by
    rw [hexit]
    exact .success hrun hclean
  cases command with
  | families =>
      cases hrun
      exact hzero rfl fun h => h
  | encrypt family password salt iterations input =>
      have h : runEncrypt world s family password salt iterations input = .ok done :=
        congrArg Prod.fst hrun
      obtain ⟨_, _, _, -, rfl, -⟩ := exists_of_runEncrypt h
      exact hzero rfl fun h => h
  | decrypt algorithm password data =>
      have h : runDecrypt s algorithm password data = .ok done := congrArg Prod.fst hrun
      exact hzero (exit_of_runDecrypt h) fun h => h
  | selftest vectors seed iterations report save =>
      obtain ⟨rfl, rfl⟩ := hreport
      rcases exit_of_runSelftest hcount hrun with ⟨hexit, hfails⟩ | ⟨hexit, hfails⟩
      · exact hzero hexit hfails
      · rw [hexit]
        exact .fault hrun hfails

/-- The exit code of a command that fails for a reason that can be
reported. -/
private theorem exits_of_error (hrun : (command.run world s).run.run [] = (.error e, later)) :
    Exits world s command (errorExit e) := by
  cases e with
  | decryption => exact .decryption hrun
  | _ => exact .failure hrun (fun h => nomatch h)

-- ================================================================== runs

section Runs

variable (hsettings : world.environment.read = .ok s) (hread : readArguments s arguments = .ok i)
  (hreport : i.command.WithoutReport)

include hsettings hread hreport

/-- A run is left by an error exactly if its command leaves it. -/
theorem start_eq_error_iff (hcount : i.command.Nameable) :
    (start .direct world arguments).1 = .error e ↔ Escapes world s i.command e := by
  rw [← leaves_run_iff hreport hcount []]
  rcases hrun : (i.command.run world s).run.run [] with ⟨e' | done, later⟩
  · cases hreportable : e'.isReportable with
    | true =>
        -- the error is answered, so neither side holds
        obtain ⟨outcome, hend, -⟩ := start_of_reportable hsettings hread hrun hreportable
        rw [hend]
        refine iff_of_false (fun h => nomatch h) ?_
        rintro ⟨⟨⟩, hnot⟩
        rw [hreportable] at hnot
        cases hnot
    | false =>
        rw [start_of_not_reportable hsettings hread hrun hreportable]
        constructor
        · rintro ⟨⟩
          exact ⟨rfl, hreportable⟩
        · rintro ⟨⟨⟩, -⟩
          rfl
  · rw [start_of_ok hsettings hread hrun]
    exact iff_of_false (fun h => nomatch h) (not_leaves_ok _ e)

/-- And otherwise it is finished with the exit code of its command. -/
private theorem exists_finished (hcount : i.command.Nameable)
    (hstays : ∀ e, ¬ Escapes world s i.command e) :
    ∃ outcome, (start .direct world arguments).1 = .ok (.finished outcome)
      ∧ Exits world s i.command outcome.exit := by
  rcases hrun : (i.command.run world s).run.run [] with ⟨e | done, later⟩
  · cases hreportable : e.isReportable with
    | true =>
        obtain ⟨outcome, hend, hexit⟩ := start_of_reportable hsettings hread hrun hreportable
        refine ⟨outcome, hend, ?_⟩
        rw [hexit]
        exact exits_of_error hrun
    | false =>
        have hleft := start_of_not_reportable hsettings hread hrun hreportable
        exact absurd ((start_eq_error_iff hsettings hread hreport hcount).1 hleft) (hstays e)
  · exact ⟨_, start_of_ok hsettings hread hrun, exits_of_ok hreport hcount hrun⟩

end Runs

/-- Whatever the environment and the arguments, a direct run is finished, or it
is left by an error of a known kind. Settings that cannot be read finish it
with an exit code of two, and arguments without a command end it with what
is wrong with them. A command that writes no report leaves it for the reasons
above and for no others. If it has none of these, the run is finished: with
zero if the command is carried out and finds no fault, with one if it finds
one or if what was to be decrypted is not accepted, and with two if it fails
for any other reason. -/
theorem start_exits_or_escapes (world : World) (arguments : List Text) :
    (∀ e, world.environment.read = .error e →
        ∃ outcome, (start .direct world arguments).1 = .ok (.finished outcome)
          ∧ outcome.exit = 2)
      ∧ ∀ s, world.environment.read = .ok s →
        (∀ why, readArguments s arguments = .error why →
            (start .direct world arguments).1 = .ok (.usage why))
          ∧ ∀ i, readArguments s arguments = .ok i → i.command.WithoutReport →
            (∀ e, (start .direct world arguments).1 = .error e ↔ Escapes world s i.command e)
              ∧ ((∀ e, ¬ Escapes world s i.command e) →
                  ∃ outcome, (start .direct world arguments).1 = .ok (.finished outcome)
                    ∧ Exits world s i.command outcome.exit) := by
  refine ⟨fun e hread => ?_, fun s hsettings => ⟨fun why hread => ?_, fun i hread hreport => ?_⟩⟩
  · simp only [start, run, hread]
    exact ⟨_, rfl, rfl⟩
  · simp only [start, run, hsettings, hread]
    rfl
  · have hcount :=
      nameable_of_readArguments (Settings.defaultIterations_lt_bound hsettings) hread
    exact ⟨fun e => start_eq_error_iff hsettings hread hreport hcount,
      exists_finished hsettings hread hreport hcount⟩

-- ============================================================= instances

/-- Arguments to decrypt nothing under given octets. -/
def decryptNothing (algorithm : String) : List Text :=
  ["decrypt", "--algorithm-hex", algorithm, "--password", "pw", "--in-hex", ""].map Text.ofString

/-- Arguments to encrypt a letter under a password with a surrogate. -/
def surrogatePassword : List Text :=
  [Text.ofString "encrypt", Text.ofString "--password", [0xDC80], Text.ofString "--in=x"]

/-- Arguments for a self-check with fewer trials than none. -/
def negativeTrials : List Text := ["selftest", "--vectors", "-1"].map Text.ofString

/-- Arguments that make a command can leave the run nonetheless. -/
theorem start_escapes_with_command :
    readArguments Settings.standard (decryptNothing "30020600")
        = .ok ⟨.decrypt [0x30, 0x02, 0x06, 0x00] (.value (Text.ofString "pw")) [], false⟩
      ∧ (start .direct World.bare (decryptNothing "30020600")).1 = .error Identifier.undotted
      ∧ readArguments Settings.standard surrogatePassword
        = .ok ⟨.encrypt (.value .tripleDes) (.value [0xDC80]) none (.value 2048)
            (.text (.value (Text.ofString "x"))), false⟩
      ∧ (start .direct World.bare surrogatePassword).1
        = .error (.misuse (.unencodable ⟨.utf16BigEndian, 0xDC80, 0, 0⟩))
      ∧ readArguments Settings.standard negativeTrials
        = .ok ⟨.selftest (.value (-1)) (.value 1337) (.value 16) none false, false⟩
      ∧ (start .direct World.bare negativeTrials).1 = .error (.misuse .negativeVectors) := by
  have hbare : World.bare.environment.read = .ok Settings.standard := rfl
  have hdecrypt : readArguments Settings.standard (decryptNothing "30020600")
      = .ok ⟨.decrypt [0x30, 0x02, 0x06, 0x00] (.value (Text.ofString "pw")) [], false⟩ := by
    decide +kernel
  have hencrypt : readArguments Settings.standard surrogatePassword
      = .ok ⟨.encrypt (.value .tripleDes) (.value [0xDC80]) none (.value 2048)
          (.text (.value (Text.ofString "x"))), false⟩ := by
    decide +kernel
  have hselftest : readArguments Settings.standard negativeTrials
      = .ok ⟨.selftest (.value (-1)) (.value 1337) (.value 16) none false, false⟩ := by
    decide +kernel
  -- the other two are errors of the command itself, this one of the octets
  have hnameless : Identifier.Nameless [0x30, 0x02, 0x06, 0x00] :=
    (Identifier.ofDer_eq_undotted_iff _).1 (by decide +kernel)
  have hpassword : (Command.run World.bare Settings.standard
      (.encrypt (.value .tripleDes) (.value [0xDC80]) none (.value 2048)
        (.text (.value (Text.ofString "x"))))).run.run []
      = (.error (.misuse (.unencodable ⟨.utf16BigEndian, 0xDC80, 0, 0⟩)), []) := rfl
  refine ⟨hdecrypt, ?_, hencrypt, ?_, hselftest, ?_⟩
  · exact (start_eq_error_iff hbare hdecrypt trivial trivial).2 (.name hnameless)
  · exact start_of_not_reportable hbare hencrypt hpassword rfl
  · refine (start_eq_error_iff hbare hselftest ⟨rfl, rfl⟩
      (Given.nameable_value (by decide +kernel))).2 ?_
    exact .selftest (.trials (by decide) fun h => absurd h (by decide))

/-- A world whose settings have no salt size. -/
def World.unsalted : World :=
  { World.bare with environment := { saltSize := some (Text.ofString "lots") } }

/-- Decrypting under octets that are no identifier is answered. -/
theorem start_exits_or_escapes_answered :
    (∃ e, World.unsalted.environment.read = .error e)
      ∧ (∃ outcome, (start .direct World.unsalted []).1 = .ok (.finished outcome)
          ∧ outcome.exit = 2)
      ∧ World.bare.environment.read = .ok Settings.standard
      ∧ readArguments Settings.standard [] = .error .wrong
      ∧ (start .direct World.bare []).1 = .ok (.usage .wrong)
      ∧ readArguments Settings.standard (decryptNothing "3000")
        = .ok ⟨.decrypt [0x30, 0x00] (.value (Text.ofString "pw")) [], false⟩
      ∧ (∀ e, ¬ Escapes World.bare Settings.standard
          (.decrypt [0x30, 0x00] (.value (Text.ofString "pw")) []) e)
      ∧ ∃ outcome, (start .direct World.bare (decryptNothing "3000")).1 = .ok (.finished outcome)
          ∧ outcome.exit = 2 := by
  have hunsalted : World.unsalted.environment.read
      = .error (.configuration (.integer (Text.ofString "lots"))) := rfl
  have hbare : World.bare.environment.read = .ok Settings.standard := rfl
  have hcommand : readArguments Settings.standard (decryptNothing "3000")
      = .ok ⟨.decrypt [0x30, 0x00] (.value (Text.ofString "pw")) [], false⟩ := by
    decide +kernel
  have hmalformed : Identifier.ofDer [0x30, 0x00] = .error (.format .identifier) := by
    decide +kernel
  -- octets that are no identifier are not an identifier but for its name
  have hstays (e : Error) : ¬ Escapes World.bare Settings.standard
      (.decrypt [0x30, 0x00] (.value (Text.ofString "pw")) []) e := by
    intro h
    cases h with
    | name hnameless =>
        cases hmalformed.symm.trans ((Identifier.ofDer_eq_undotted_iff _).2 hnameless)
    | decryption read reason => cases hmalformed.symm.trans read
    | count read given count => cases hmalformed.symm.trans read
  obtain ⟨hunread, -⟩ := start_exits_or_escapes World.unsalted []
  obtain ⟨-, husage⟩ := start_exits_or_escapes World.bare []
  obtain ⟨-, hcommands⟩ := start_exits_or_escapes World.bare (decryptNothing "3000")
  obtain ⟨-, hends⟩ := (hcommands _ hbare).2 _ hcommand trivial
  obtain ⟨outcome, hend, hexits⟩ := hends hstays
  refine ⟨⟨_, hunsalted⟩, hunread _ hunsalted, hbare, rfl, (husage _ hbare).1 _ rfl, hcommand,
    hstays, outcome, hend, ?_⟩
  -- the command fails, and not as a decryption does
  generalize outcome.exit = code at hexits ⊢
  cases hexits with
  | success carriedOut clean => cases congrArg Prod.fst carriedOut
  | fault carriedOut found => exact found.elim
  | decryption failed => cases congrArg Prod.fst failed
  | failure failed other => rfl

end Pkcs12.Cli
