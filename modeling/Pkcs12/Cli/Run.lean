/-
Runs of the command line.

# What a run is

A run is a function of the arguments and of what it finds around it
(`World`): the environment, the time, random octets and the memory. Its
outcome is a value: an exit code, what was printed, the files that are to be
written and the log. So two runs in one world have the same outcome, and what
is written depends on nothing that is not named.

# Stages

Settings are read first, even before the arguments are looked at. Then a
command is made of the arguments, and it is carried out (`Command.run`). Each
command is a chain of computations in a fixed order, so that the first one
that fails decides, and what comes of that is decided in one place
(`Invocation.run`): faults of the data and of the configuration are answered,
with an exit code that tells a failed decryption from the rest; an error
outside a function's domain is no answer and leaves the run.

# Two entries

A run is started directly or through the script, which takes requests for a
full log off the arguments and keeps a fuller one in any case. The level of
the log matters to one error: how a missing number of test vectors shows
depends on whether it is announced (`errorAt`).
-/
import Pkcs12.Cli.Command
import Pkcs12.Random.MersenneTwister
import Pkcs12.Report.File
import Pkcs12.SelfCheck.Suite
import Pkcs12.Text.Utf8

namespace Pkcs12.Cli

-- =============================================================== answers

/-- What a run answers. -/
inductive Answer where
  /-- Named values, in order. -/
  | fields (values : List (String × String))
  /-- A document, and the lines that stand for it in plain form. -/
  | document (value : Json) (lines : List String)

def closeLines (lines : List String) : String :=
  String.join (lines.map (· ++ "\n"))

def Answer.render (json : Bool) : Answer → String
  | .fields values =>
    if json then (Json.record (values.map fun v => (v.1, Json.str v.2))).compact ++ "\n"
    else closeLines (values.map fun v => v.1 ++ "=" ++ v.2)
  | .document value lines =>
    if json then value.compact ++ "\n" else closeLines lines

/-- What a finished run leaves. -/
structure Outcome where
  exit : Nat
  output : String := ""
  errors : String := ""
  files : List Report.File := []
deriving DecidableEq, Repr

/-- How a run ends when it is not left by an error. -/
inductive Ending where
  | finished (outcome : Outcome)
  /-- The arguments ask for help or make no command. -/
  | usage (why : Usage)
deriving DecidableEq, Repr

def Usage.exit : Usage → Nat
  | .help => 0
  | .wrong => 2

/-- What a run finds around it. -/
structure World where
  environment : Settings.Environment
  now : Moment
  random : RandomOctets
  memory : Memory

-- ============================================================== commands

/-- What a command that was carried out leaves. -/
structure Done where
  exit : Nat := 0
  answer : Answer
  files : List Report.File := []

/-- One scheme in the list of families, as a record. -/
def schemeRecord (s : Scheme) : Json :=
  .record [
    ("family", .str s.name),
    ("oid", .str s.identifier),
    ("key_length", .int s.keyLength),
    ("iv_length", .int s.ivLength),
    ("block_size", .int s.blockSize)]

/-- One scheme in the list of families, as a line. -/
def schemeLine (s : Scheme) : String :=
  s!"{s.name}  oid={s.identifier}  key={s.keyLength}B  iv={s.ivLength}B  block={s.blockSize}B"

/-- The list of families, in the order of their names. -/
def families : Done where
  answer :=
    .document (.record [("families", .list (Scheme.all.map schemeRecord))])
      (Scheme.all.map schemeLine)

/-- The octets of an input: those of a text are its encoding, if it has one. -/
def Input.toBytes : Input → Except Error Bytes
  | .octets value => .ok value
  | .text value => do
    match Utf8.encode (← value.orError (.misuse .blankText)) with
    | .ok encoded => .ok encoded
    | .error place => .error (.misuse (.unencodable place))

def passwordOctets (password : Given Text) : Except Error Bytes := do
  Password.encode (← password.orError (.misuse .blankText))

/-- What stands in a message for a family that is given without a name. -/
def unnamed : String := "[]"

/-- Encrypts under a fresh identifier. -/
def runEncrypt (world : World) (settings : Settings) (family : Given Scheme)
    (password : Given Text) (salt : Option (Given Bytes)) (iterations : Given Int)
    (input : Input) : Except Error Done := do
  let data ← input.toBytes
  let family ← family.orError (.unsupported unnamed)
  let salt ← salt.mapM (·.orError (.format .blankSalt))
  let iterations ← iterations.orError (.format .blankCount)
  let algorithm ←
    Identifier.forEncryption (.ok settings) world.random family.name salt (some iterations)
  -- the password is not looked at before there is an identifier
  let octets ← passwordOctets password
  let ciphertext ← encrypt (.ok settings) algorithm octets data
  let der ← algorithm.toDer
  return { answer := .fields [("algorithm", der.toHex), ("ciphertext", ciphertext.toHex)] }

/-- Decrypts under an encoded identifier. -/
def runDecrypt (settings : Settings) (algorithm : Bytes) (password : Given Text)
    (data : Bytes) : Except Error Done := do
  let algorithm ← Identifier.ofDer algorithm
  let octets ← passwordOctets password
  let plaintext ← decrypt (.ok settings) algorithm octets data
  let text := String.ofList (Utf8.decodeLossy plaintext)
  return { answer := .fields [("plaintext", text), ("plaintext_hex", plaintext.toHex)] }

/-- The name of the reports of a self-check. -/
def reportName : Text := Text.ofString "selftest"

/-- Where the report of a self-check goes: to the given path, or to a
stamped one below the reports directory when that is asked for. An empty
path is as good as none. -/
def reportTarget (world : World) (settings : Settings) (report : Option Text) (save : Bool) :
    Option Path :=
  match report with
  | some [] => none
  | some t => some (Path.ofText t)
  | none =>
    if save then some (Report.path settings.reportsDirectory reportName world.now) else none

/-- The text of the report's path, as the log shows it: a path that was
given is shown as it was given. -/
def reportShown (report : Option Text) (path : Path) : Text :=
  report.getD path.toText

/-- What the self-check of a run consults. -/
def suiteSetup (memory : Memory) (settings : Settings) : SelfCheck.Setup MersenneTwister where
  settings := .ok settings
  generator := MersenneTwister.generator
  start := MersenneTwister.ofSeed
  memory := memory

/-- Runs the suite of a self-check. The first scheme is announced before
anything is asked of the seed, and the seed is asked for before the trials
are counted; but a number of trials that is missing cannot be announced.
Without a count the first trial fails as it does with a count of zero, and
only says something else; if there is no trial, the reports have no
count. -/
def runSuite (memory : Memory) (settings : Settings) (vectors seed iterations : Given Int) :
    Logged SelfCheck.Suite := do
  let setup := suiteSetup memory settings
  match vectors, seed with
  | .blank, .blank => throw (.misuse .blankSeed)
  | .blank, .value _ => throw (.misuse .blankVectors)
  | .value trials, .blank =>
    Scheme.all.head?.forM (SelfCheck.Suite.announce trials)
    throw (.misuse .blankSeed)
  | .value trials, .value seed =>
    match iterations with
    | .value count => SelfCheck.Suite.run setup trials seed count
    | .blank =>
      -- only an identifier is made with the count, so only its error tells
      tryCatch ((·.withoutCount) <$> SelfCheck.Suite.run setup trials seed 0) fun e =>
        throw (if e = .format .schemeCount then .format .blankCount else e)

/-- Runs the self-check. Its report is written when all of it is there, and the
exit code says whether it is perfect. -/
def runSelftest (world : World) (settings : Settings) (vectors seed iterations : Given Int)
    (report : Option Text) (save : Bool) : Logged Done := do
  let suite ← runSuite world.memory settings vectors seed iterations
  let document ← suite.document
  let files ←
    match reportTarget world settings report save with
    | none => pure []
    | some path =>
      let (_, file) ← Report.write path document
      reportText .info (Text.ofString "Self-test report written to " ++ reportShown report path)
      pure [file]
  return {
    exit := if suite.isPerfect then 0 else 1
    answer := .document document suite.summaries
    files := files }

def Command.run (world : World) (settings : Settings) : Command → Logged Done
  | .families => return Cli.families
  | .encrypt family password salt iterations input =>
    runEncrypt world settings family password salt iterations input
  | .decrypt algorithm password data => runDecrypt settings algorithm password data
  | .selftest vectors seed iterations report save =>
    runSelftest world settings vectors seed iterations report save

-- ================================================================== runs

/-- The log entry for an error that is answered. -/
def errorEntry : Error → String
  | .decryption => "Decryption failed"
  | e => s!"{e.label}: {e.message}"

/-- The exit code for an error that is answered. -/
def errorExit : Error → Nat
  | .decryption => 1
  | _ => 2

/-- Carries out an invocation; errors that are answered end in an
outcome. -/
def Invocation.run (world : World) (settings : Settings) (i : Invocation) : Logged Outcome :=
  tryCatch
    (do
      let done ← i.command.run world settings
      return { exit := done.exit, output := done.answer.render i.json, files := done.files })
    fun e =>
      if e.isReportable then do
        Pkcs12.report .debug (errorEntry e)
        let answer := Answer.fields [("error", e.message)]
        return { exit := errorExit e, output := answer.render i.json }
      else throw e

/-- A run with the given arguments. Settings are read before the arguments
are looked at. -/
def run (world : World) (arguments : List Text) : Logged Ending := do
  match world.environment.read with
  | .error e =>
    Pkcs12.report .debug (errorEntry e)
    return .finished { exit := 2, errors := s!"error={e.message}\n" }
  | .ok settings =>
    match readArguments settings arguments with
    | .error why => return .usage why
    | .ok invocation => return .finished (← invocation.run world settings)

/-- The two ways to start a run: directly, or through the script, which keeps a
fuller log. -/
inductive Entry where
  | direct
  | script
deriving DecidableEq, Repr

/-- An error of a run whose log is kept from a level on. That the number of
test vectors is missing shows where it is announced, if it is. -/
def errorAt (level : Level) : Error → Error
  | .misuse .blankVectors =>
    .misuse (if level.rank ≤ Level.info.rank then .blankAnnouncement else .blankVectors)
  | e => e

/-- A run by one of the two entries: how it ends and what its log shows. -/
def start (entry : Entry) (world : World) (arguments : List Text) : Except Error Ending × Log :=
  let finish := fun (level : Level) (arguments : List Text) =>
    let (ending, log) := ((run world arguments).run.run [])
    (ending.mapError (errorAt level), Log.above level log)
  match entry with
  | .direct => finish .warning arguments
  | .script =>
    match takeVerbose arguments with
    | .error why => (.ok (.usage why), [])
    | .ok (verbose, rest) => finish (if verbose then .debug else .info) rest

end Pkcs12.Cli
