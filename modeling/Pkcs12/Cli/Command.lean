/-
Commands: what the command line asks for.

# From tokens to a command

`Cli.Token` sorts the arguments behind the word of a command into options and
others. Here the options are taken up from left to right, each with its own
reading of the value, and the first one that asks for help or does not fit
decides (`Choices.collect`); what is missing or superfluous shows at the end.
The last of a repeated option counts. What the choices leave open comes from
the settings (`Choices.command`), so a command is complete: nothing about it
is looked up later.

The word itself stands before all of that, and only a request for help may
stand before it (`readArguments`).

# Missing values

An option that takes a value may end up without one although an argument was
there for it, namely two hyphens. What stands in for the value then passes for
anything until it is used. `Given` keeps it apart as `blank`, and each use of
it has its own error, or none.
-/
import Pkcs12.Cli.Token
import Pkcs12.Settings
import Pkcs12.Text.Hex

namespace Pkcs12.Cli

-- =============================================================== values

/-- The value of an option. Two hyphens alone, attached to an option, pass for its
value and yet are none: by the older of the two conventions (`Cli.Token`, # Two
conventions) they are taken off again when the values are collected, and an
option that is left without any value keeps the empty collection in place of
one. What is missing shows where it is used. By the newer convention there
would be no `blank`. -/
inductive Given (α : Type) where
  | value (x : α)
  | blank
deriving DecidableEq, Repr

namespace Given

variable {α : Type}

/-- Reads a value from its text. -/
def read? (read : Text → Option α) (t : Text) : Option (Given α) :=
  if t = Text.ofString "--" then some .blank else (read t).map .value

/-- The value, or what stands in for it. -/
def getD (default : α) : Given α → α
  | .value x => x
  | .blank => default

/-- The value, or the error that comes of using none. -/
def orError (e : Error) : Given α → Except Error α
  | .value x => .ok x
  | .blank => .error e

end Given

-- ============================================================= commands

/-- What to encrypt: a text, or octets. Of octets, none is as good as an empty
value. -/
inductive Input where
  | text (value : Given Text)
  | octets (value : Bytes)
deriving DecidableEq, Repr

/-- A command with its values. -/
inductive Command where
  | families
  | encrypt (family : Given Scheme) (password : Given Text) (salt : Option (Given Bytes))
      (iterations : Given Int) (input : Input)
  | decrypt (algorithm : Bytes) (password : Given Text) (data : Bytes)
  | selftest (vectors seed iterations : Given Int) (report : Option Text) (saveReport : Bool)
deriving DecidableEq, Repr

/-- A command, and whether its answer is wanted as JSON. -/
structure Invocation where
  command : Command
  json : Bool
deriving DecidableEq, Repr

/-- Why no command comes out of the arguments. -/
inductive Usage where
  | help
  | wrong
deriving DecidableEq, Repr

inductive Verb where
  | families
  | encrypt
  | decrypt
  | selftest
deriving DecidableEq, Repr

namespace Verb

def word : Verb → String
  | .families => "families"
  | .encrypt => "encrypt"
  | .decrypt => "decrypt"
  | .selftest => "selftest"

/-- The command that a text names. Beginnings of its word do not do. -/
def ofText? (t : Text) : Option Verb :=
  [families, encrypt, decrypt, selftest].find? fun v => Text.ofString v.word = t

def options : Verb → List Opt
  | .families => [.help, .json]
  | .encrypt => [.help, .json, .family, .password, .salt, .iterations, .inText, .inHex]
  | .decrypt => [.help, .json, .algorithmHex, .password, .inHex]
  | .selftest => [.help, .json, .vectors, .seed, .iterations, .report, .saveReport]

end Verb

-- =============================================================== choices

/-- The values of the options met so far; the last of a repeated option
counts. Of the octets to work on and of the report's path, none is as good
as an empty value. -/
structure Choices where
  json : Bool := false
  family : Option (Given Scheme) := none
  password : Option (Given Text) := none
  salt : Option (Given Bytes) := none
  iterations : Option (Given Int) := none
  inText : Option (Given Text) := none
  inHex : Option Bytes := none
  algorithmHex : Option Bytes := none
  vectors : Option (Given Int) := none
  seed : Option (Given Int) := none
  report : Option Text := none
  saveReport : Bool := false
  /-- Whether an argument was met that nothing takes. -/
  superfluous : Bool := false

/-- A value that has to be there. -/
def demand {α : Type} : Option α → Except Usage α
  | some x => .ok x
  | none => .error .wrong

/-- The value of an option that takes a text. -/
def readText (t : Text) : Except Usage (Given Text) :=
  demand (Given.read? some t)

/-- The value of an option that takes octets in hexadecimal. -/
def readOctets (t : Text) : Except Usage (Given Bytes) :=
  demand (Given.read? Hex.decode t)

/-- The value of an option that takes an integer. -/
def readInt (t : Text) : Except Usage (Given Int) :=
  demand (Given.read? (fun u => u.toInt.toOption) t)

/-- The value of an option that takes the name of a scheme. -/
def readScheme (t : Text) : Except Usage (Given Scheme) :=
  demand (Given.read? Scheme.ofText? t)

namespace Choices

/-- Takes up an option without a value. -/
def setFlag (c : Choices) : Opt → Except Usage Choices
  | .json => .ok { c with json := true }
  | .saveReport => .ok { c with saveReport := true }
  | .help => .error .help
  | _ => .error .wrong

/-- Takes up an option with its value. A text and octets to encrypt exclude
one another. -/
def setValue (c : Choices) (o : Opt) (t : Text) : Except Usage Choices := do
  match o with
  | .family => return { c with family := ← readScheme t }
  | .password => return { c with password := ← readText t }
  | .salt => return { c with salt := ← readOctets t }
  | .iterations => return { c with iterations := ← readInt t }
  | .inText =>
    let text ← readText t
    if c.inHex.isSome then throw .wrong else return { c with inText := text }
  | .inHex =>
    let octets ← readOctets t
    if c.inText.isSome then throw .wrong else return { c with inHex := some (octets.getD []) }
  | .algorithmHex => return { c with algorithmHex := some ((← readOctets t).getD []) }
  | .vectors => return { c with vectors := ← readInt t }
  | .seed => return { c with seed := ← readInt t }
  | .report => return { c with report := some ((← readText t).getD []) }
  | .help | .json | .saveReport => throw .wrong

/-- Takes up tokens from left to right. A value is what is attached to an
option, or else the argument behind it. -/
def collect (c : Choices) : List Token → Except Usage Choices
  | [] => .ok c
  | .option o attached :: rest =>
    match o.takesValue, attached, rest with
    | false, none, rest => do collect (← c.setFlag o) rest
    | false, some _, _ => .error .wrong
    | true, some t, rest => do collect (← c.setValue o t) rest
    | true, none, .argument t :: rest => do collect (← c.setValue o t) rest
    | true, none, _ => .error .wrong
  -- what nothing takes is an error, unless help is asked for behind it
  | _ :: rest => collect { c with superfluous := true } rest

/-- What to encrypt. Octets and a text are never both chosen. -/
def input? (c : Choices) : Option Input :=
  match c.inHex, c.inText with
  | some octets, _ => some (.octets octets)
  | none, some t => some (.text t)
  | none, none => none

/-- The command that the choices make. What they leave open comes from the
settings, where it may be left open. -/
def command (settings : Settings) (c : Choices) : Verb → Except Usage Command
  | .families => .ok .families
  | .encrypt => do
    let password ← demand c.password
    let input ← demand c.input?
    return .encrypt (c.family.getD (.value settings.defaultFamily)) password c.salt
      (c.iterations.getD (.value settings.defaultIterations)) input
  | .decrypt => do
    return .decrypt (← demand c.algorithmHex) (← demand c.password) (← demand c.inHex)
  | .selftest =>
    .ok (.selftest (c.vectors.getD (.value 100)) (c.seed.getD (.value settings.globalSeed))
      (c.iterations.getD (.value 16)) c.report c.saveReport)

end Choices

-- =============================================================== reading

/-- The invocation of a command by its own arguments. -/
def readVerb (settings : Settings) (verb : Verb) (arguments : List Text) :
    Except Usage Invocation := do
  match tokens? verb.options arguments with
  | none => throw .wrong
  | some tokens =>
    let choices ← Choices.collect {} tokens
    let command ← choices.command settings verb
    if choices.superfluous then throw .wrong else return ⟨command, choices.json⟩

/-- The invocation by all arguments: an option before the command can only
ask for help, and one that is not known spoils the rest, unless that asks
for help itself. -/
def readArguments (settings : Settings) : List Text → Except Usage Invocation
  | [] => .error .wrong
  | t :: rest =>
    if t = Text.ofString "--" then .error .wrong
    else
      -- as the only option before the command, help may be cut short as well
      match token? [.help] t with
      | some (.option _ none) => .error .help
      | some .unknown => do
        let _ ← readArguments settings rest
        throw .wrong
      | some (.argument t) =>
        match Verb.ofText? t with
        | some verb => readVerb settings verb rest
        | none => .error .wrong
      | _ => .error .wrong

-- ================================================================ script

/-- The arguments without the requests for a full log, and whether there
was one. Such a request may stand before, between and behind all other
arguments; after two hyphens alone there are none. A short request may be
repeated, and by the older of the two conventions (`isRepeated`) an equals
sign is overlooked; anything else behind it is refused. -/
def takeVerbose : List Text → Except Usage (Bool × List Text)
  | [] => .ok (false, [])
  | t :: rest => do
    let long := Text.ofString "--verbose"
    if t = Text.ofString "--" then return (false, t :: rest)
    else if t = long then return (true, (← takeVerbose rest).2)
    else if (splitEquals t).1 = long then throw .wrong
    else if Text.startsWith t (Text.ofString "-v") then
      if isRepeated 'v' (t.drop 2) then return (true, (← takeVerbose rest).2) else throw .wrong
    else
      let (verbose, others) ← takeVerbose rest
      return (verbose, t :: others)

end Pkcs12.Cli
