/-
The command line program: collects what a run finds around it, carries the
run out and leaves what it says. All decisions are taken by the run.
-/
import Pkcs12.Cli.Run
import Std.Time.DateTime

namespace Pkcs12.Cli

/-- The text that a variable holds. -/
def readVariable (name : String) : IO (Option Text) := do
  return (← IO.getEnv name).map Text.ofString

/-- The variables that settings are read from. -/
def readEnvironment : IO Settings.Environment := do
  return {
    maxIterations := ← readVariable "PBE_MAX_ITERATIONS"
    defaultIterations := ← readVariable "PBE_DEFAULT_ITERATIONS"
    saltSize := ← readVariable "PBE_SALT_SIZE"
    defaultFamily := ← readVariable "PBE_DEFAULT_FAMILY"
    globalSeed := ← readVariable "GLOBAL_SEED"
    reportsDirectory := ← readVariable "PBE_REPORTS_DIR" }

/-- The present moment, in universal time. -/
def readClock : IO Moment := do
  let t := Std.Time.DateTime.ofTimestamp (← Std.Time.Timestamp.now) Std.Time.TimeZone.ZoneRules.UTC
  return {
    year := t.year.toInt.toNat
    month := t.month.val.toNat
    day := t.day.val.toNat
    hour := t.hour.val.toNat
    minute := t.minute.val.toNat
    second := t.second.val.toNat }

/-- The most random octets that a run may ask for: the largest salt. -/
def randomSupply : Nat := 64

/-- What a run finds around it. -/
def readWorld : IO World := do
  let supply ← IO.getRandomBytes randomSupply.toUSize
  return {
    environment := ← readEnvironment
    now := ← readClock
    random := fun n => supply.toList.take n
    memory := .common }

/-- A text as a terminal shows it, surrogates by their numbers. -/
def shown (t : Text) : String :=
  String.ofList (t.flatMap fun c => (c.toChar?.map ([·])).getD (Text.Quoted.numbered c))

/-- Leaves a file, with the directories on the way to it. -/
def leave (file : Report.File) : IO Unit := do
  let place := file.place
  let above : Path := { place with components := place.components.dropLast }
  IO.FS.createDirAll (shown above.toText)
  IO.FS.writeFile (shown place.toText) file.text

end Pkcs12.Cli

open Pkcs12 Cli in
def main (arguments : List String) : IO UInt32 := do
  let (ending, log) := start .direct (← readWorld) (arguments.map Text.ofString)
  for entry in log do
    IO.eprintln (shown entry.message)
  match ending with
  | .error e =>
    IO.eprintln e.message
    return 1
  | .ok (.usage why) =>
    IO.eprintln "usage: families | encrypt | decrypt | selftest, each with its options"
    return UInt32.ofNat why.exit
  | .ok (.finished outcome) =>
    outcome.files.forM leave
    IO.print outcome.output
    IO.eprint outcome.errors
    return UInt32.ofNat outcome.exit
