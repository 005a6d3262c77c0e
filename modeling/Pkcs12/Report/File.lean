/-
Report files: the indented text of a report and the place it is written
to. Directories on the way are made as needed, so the only obstacles are a
path that cannot be a name and one that names a directory.

# Names in the file system

A name in the file system is a string of octets, and a text is written in
UTF-8 for it. A surrogate from the range that stands for an octet is that
octet again; any other one has no octets, and a path that holds it names
nothing. That is found before a null character is, and that before the
name turns out to be too long, each in the path of the directory first and
in the path itself then.
-/
import Pkcs12.Error
import Pkcs12.Json.Printer
import Pkcs12.Report.Path
import Pkcs12.Text.Utf8

namespace Pkcs12.Report

/-- A file as it has been written: where, with double dots followed, and
what it holds. -/
structure File where
  place : Path
  text : String
deriving DecidableEq, Repr

/-- The components that remain when double dots are followed. Those at the
front have nothing to cancel. -/
def follow (components : List Text) : List Text :=
  (components.foldl
    (fun done c =>
      match done with
      | last :: before =>
        if c = [Path.dot, Path.dot] ∧ last ≠ [Path.dot, Path.dot] then before else c :: done
      | [] => [c])
    []).reverse

/-- The text of a report file. -/
def text (document : Json) : String :=
  document.indented ++ "\n"

/-- Whether a name has a form in the file system. -/
def isEncodable (name : Text) : Bool :=
  name.all fun c => !c.isSurrogate || c.isEscapedOctet

/-- The octets of a name in the file system. -/
def octets (name : Text) : Bytes :=
  name.flatMap fun c =>
    if c.isEscapedOctet then [UInt8.ofNat (c.val - 0xDC00)] else Utf8.encodePoint c

/-- Whether a path, or one of its components, is longer than file systems
take: 4095 octets for the whole and 255 for a component. -/
def isTooLong (path : Path) : Bool :=
  4095 < (octets path.toText).length || path.components.any fun c => 255 < (octets c).length

/-- Why a path can be no name, if so. -/
def nameFault (path : Path) : Option Misuse :=
  if !isEncodable path.toText then some .surrogateInPath
  else if path.components.any (·.any (·.isChar '\x00')) then some .nullInPath
  else if isTooLong path then some .longPath
  else none

/-- Whether a path names a directory: it says nothing, or it ends by going
up. -/
def isDirectory (path : Path) : Bool :=
  path.components.getLast? == none
    || path.components.getLast? == some [Path.dot, Path.dot]

/-- What stands in the way of writing to a path. The directory is made
first, so that its faults are found first. -/
def obstacle (path : Path) : Option Misuse :=
  let directory := { path with components := path.components.dropLast }
  nameFault directory <|> nameFault path <|>
    (if isDirectory path then some .directory else none)

/-- Writes a report: the path it was given, and the file. -/
def write (path : Path) (document : Json) : Except Error (Path × File) :=
  match obstacle path with
  | some fault => .error (.misuse fault)
  | none => .ok (path, ⟨{ path with components := follow path.components }, text document⟩)

end Pkcs12.Report
