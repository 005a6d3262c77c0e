/-
Paths of reports.

# Paths

A path is where it starts and a list of components; components that say
nothing (empty ones and single dots) are dropped, and double dots stay, since
what they mean depends on the file system. Two slashes in front are kept apart
from one, as the rules for paths have it, and more are as good as one. Paths
are made of texts, which may have surrogates; whether a file can be written
there is another question (`Report.File`).

# Names of reports

The name of a report is made from a label and a time so that it is always one
component, whatever the label was: the label has letters, digits, hyphens and
underscores only, so no slash, and with the ending behind it the name is
neither empty nor a dot.
-/
import Pkcs12.Text.Alphanumeric
import Pkcs12.Text.Blank

namespace Pkcs12

-- ================================================================ paths

/-- A path: the slashes in front, and the components. -/
structure Path where
  anchor : Text
  components : List Text
deriving DecidableEq, Repr

namespace Path

def slash : CodePoint := .ofChar '/'

/-- What the components that say nothing or lead elsewhere are made of. -/
def dot : CodePoint := .ofChar '.'

/-- What the slashes in front of a path amount to. Two of them are kept
apart from one; more than two are as good as one. -/
def anchorOf (t : Text) : Text :=
  match (t.takeWhile (· == slash)).length with
  | 0 => []
  | 2 => [slash, slash]
  | _ => [slash]

/-- Whether a piece is a component that says something. -/
def isTelling (piece : Text) : Bool :=
  piece != [] && piece != [dot]

/-- The path that a text denotes. -/
def ofText (t : Text) : Path where
  anchor := anchorOf t
  components := (t.splitOn slash).filter isTelling

/-- The path that a second one leads to from a first. One that starts at a
root of its own leads there from everywhere. -/
def join (p q : Path) : Path :=
  if q.anchor = [] then { p with components := p.components ++ q.components } else q

/-- The text of a path; one that says nothing is a single dot. -/
def toText (p : Path) : Text :=
  let text := p.anchor ++ [slash].intercalate p.components
  if text.isEmpty then [dot] else text

end Path

-- ============================================================== moments

/-- A date and a time of day, as a calendar and a clock show them. -/
structure Moment where
  year : Nat
  month : Nat
  day : Nat
  hour : Nat
  minute : Nat
  second : Nat
deriving DecidableEq, Repr

/-- A number in two digits. -/
def twoDigits (n : Nat) : List Char :=
  [Char.ofNat (0x30 + n / 10 % 10), Char.ofNat (0x30 + n % 10)]

/-- The time stamp of a moment: the year in all its digits, the rest in two
digits each. -/
def Moment.stamp (m : Moment) : List Char :=
  (ToString.toString m.year).toList ++ twoDigits m.month ++ twoDigits m.day ++ 'T' ::
    (twoDigits m.hour ++ twoDigits m.minute ++ twoDigits m.second ++ ['Z'])

-- ============================================================== reports

namespace Report

/-- What stands in a label for a code point of a name: letters and digits of
every script, hyphen and underscore for themselves, and an underscore for
everything else. -/
def labelChar (c : CodePoint) : CodePoint :=
  if c.isAlphanumeric || c.isChar '-' || c.isChar '_' then c else .ofChar '_'

/-- The label for a name, white space around it aside. -/
def label (name : Text) : Text :=
  match name.strip with
  | [] => Text.ofString "report"
  | t => t.map labelChar

/-- What the file name of a report ends with, behind its label. -/
def ending (now : Moment) : List Char :=
  '_' :: now.stamp ++ ".json".toList

/-- The file name of a report. -/
def fileName (name : Text) (now : Moment) : Text :=
  label name ++ (ending now).map .ofChar

/-- The path of a report below a directory. -/
def path (directory name : Text) (now : Moment) : Path :=
  (Path.ofText directory).join (Path.ofText (fileName name now))

end Report

end Pkcs12
