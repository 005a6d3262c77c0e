/-
Log entries, and computations that may fail and leave entries behind whether
they do or not.

`Logged` puts the log below the errors: a computation that fails still returns
the entries that it has written, and one that catches an error goes on with
those. So the log of a run that is left by an error is part of what is known
of it.
-/
import Pkcs12.Error

namespace Pkcs12

/-- How important a log entry is. -/
inductive Level where
  | debug
  | info
  | warning
deriving DecidableEq, Repr

namespace Level

/-- Levels in ascending order, from which on entries are shown. -/
def rank : Level → Nat
  | .debug => 0
  | .info => 1
  | .warning => 2

def label : Level → String
  | .debug => "DEBUG"
  | .info => "INFO"
  | .warning => "WARNING"

end Level

/-- One line of a log. Its message may repeat a text from outside. -/
structure LogEntry where
  level : Level
  message : Text
deriving DecidableEq, Repr

/-- The entries of a log, oldest first. -/
abbrev Log := List LogEntry

/-- The entries from a level on. -/
def Log.above (level : Level) (log : Log) : Log :=
  log.filter fun e => level.rank ≤ e.level.rank

/-- A computation that may fail and that writes a log. -/
abbrev Logged := ExceptT Error (StateM Log)

def reportText (level : Level) (message : Text) : Logged Unit :=
  modify (· ++ [⟨level, message⟩])

/-- Adds an entry whose message is the library's own. -/
def report (level : Level) (message : String) : Logged Unit :=
  reportText level (Text.ofString message)

end Pkcs12
