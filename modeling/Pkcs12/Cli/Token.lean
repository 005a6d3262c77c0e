/-
Arguments of a command, sorted into options and others. Long options may
be shortened as long as only one fits, and may have their value attached
with an equals sign. What begins with a hyphen is an option, known or not,
unless it is a hyphen alone, a negative number, or has a blank in it; after
two hyphens alone nothing is an option.

# Two conventions

Readers of command lines of this kind agree on all of that, but there is an
older and a newer convention in three corners, and it is the older one that
is modelled here and in `Cli.Command`:

- two hyphens that are attached to an option (`--seed=--`) are taken off
  again and leave the option without a value, where newer readers take them
  for the value;
- an equals sign behind a short option is overlooked, so that `-h=h` repeats
  `-h`, where newer readers take it for the beginning of a value;
- what else is joined to `-h` (`-hx`) counts as a value of an option that
  takes none, so the arguments are refused, where newer readers answer the
  request for help first.

Nothing else in the library hangs on this choice: it is made in
`Given.read?`, `isRepeated` and `shortHelpToken`, and `takeVerbose` follows
it for the script.
-/
import Pkcs12.Text.DecimalDigit

namespace Pkcs12.Cli

-- ============================================================== options

/-- The options of all commands. -/
inductive Opt where
  | help
  | json
  | family
  | password
  | salt
  | iterations
  | inText
  | inHex
  | algorithmHex
  | vectors
  | seed
  | report
  | saveReport
deriving DecidableEq, Repr

namespace Opt

/-- The long name of an option. -/
def long : Opt → String
  | .help => "--help"
  | .json => "--json"
  | .family => "--family"
  | .password => "--password"
  | .salt => "--salt"
  | .iterations => "--iterations"
  | .inText => "--in"
  | .inHex => "--in-hex"
  | .algorithmHex => "--algorithm-hex"
  | .vectors => "--vectors"
  | .seed => "--seed"
  | .report => "--report"
  | .saveReport => "--save-report"

def takesValue : Opt → Bool
  | .help | .json | .saveReport => false
  | _ => true

/-- The long name as a text. -/
def name (o : Opt) : Text := Text.ofString o.long

end Opt

/-- The short form of the help option, the only short one. -/
def shortHelp : Text := Text.ofString "-h"

-- ================================================================ tokens

/-- An argument, sorted. -/
inductive Token where
  /-- A known option, with the value attached to it. -/
  | option (opt : Opt) (attached : Option Text)
  /-- An option that is not known. -/
  | unknown
  /-- Two hyphens alone. -/
  | separator
  /-- Anything else. -/
  | argument (text : Text)
deriving DecidableEq, Repr

/-- A text divided at its first equals sign. -/
def splitEquals : Text → Text × Option Text
  | [] => ([], none)
  | c :: rest =>
    if c.isChar '=' then ([], some rest)
    else
      let (before, after) := splitEquals rest
      (c :: before, after)

/-- Whether a text reads as a negative number: digits, with a point
somewhere before the last one or without. A line feed at the end is
overlooked. -/
def isNegativeNumber : Text → Bool
  | [] => false
  | c :: rest =>
    let isDigit := fun (d : CodePoint) => d.decimalValue?.isSome
    let body :=
      match rest.getLast? with
      | some d => if d.isChar '\n' then rest.dropLast else rest
      | none => rest
    let tail := body.dropWhile isDigit
    c.isChar '-' &&
      match tail with
      | [] => !body.isEmpty
      | point :: digits => point.isChar '.' && !digits.isEmpty && digits.all isDigit

/-- Whether what stands behind a short option only repeats it, which is as
good as giving it once. An equals sign in front is overlooked, provided
that something follows: this is the older of the two conventions, and by the
newer one it would begin a value, so that nothing behind it repeats the
option. -/
def isRepeated (letter : Char) : Text → Bool
  | [] => true
  | c :: letters =>
    let repeats := fun (t : Text) => t.all (·.isChar letter)
    if c.isChar '=' then !letters.isEmpty && repeats letters else repeats (c :: letters)

/-- The token for a text that begins with the short help option. What does
not repeat it counts as a value, which it does not take; so `-hx` is refused,
as the older convention has it, although it begins with a request for
help. -/
def shortHelpToken (t : Text) : Token :=
  .option .help (if isRepeated 'h' (t.drop 2) then none else some (t.drop 2))

/-- The token for a text that begins with a hyphen and is longer, out of the
given options; nothing when more than one fits. -/
def optionToken? (options : List Opt) (t : Text) : Option Token :=
  let (before, attached) := splitEquals t
  match options.find? fun o => o.name = before with
  | some o => some (.option o attached)
  | none =>
    if Text.startsWith t (Text.ofString "--") then
      match options.filter fun o => Text.startsWith o.name before with
      | [o] => some (.option o attached)
      | _ :: _ :: _ => none
      | [] => some (other t)
    else if Text.startsWith t shortHelp then some (shortHelpToken t)
    else some (other t)
where
  /-- What a text that is no known option counts as. -/
  other (t : Text) : Token :=
    if isNegativeNumber t || t.any (·.isChar ' ') then .argument t else .unknown

/-- The token for a text; nothing when it shortens more than one option. -/
def token? (options : List Opt) (t : Text) : Option Token :=
  match t with
  | [] => some (.argument t)
  | [_] => some (.argument t)
  | c :: _ => if c.isChar '-' then optionToken? options t else some (.argument t)

/-- The tokens of some arguments; nothing when one of them shortens more
than one option. -/
def tokens? (options : List Opt) : List Text → Option (List Token)
  | [] => some []
  | t :: rest =>
    if t = Text.ofString "--" then some (.separator :: rest.map .argument)
    else do
      let first ← token? options t
      let others ← tokens? options rest
      return first :: others

end Pkcs12.Cli
