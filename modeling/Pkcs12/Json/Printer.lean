/-
JSON text in printable ASCII.

Two layouts: on one line, with a blank after commas and colons, and indented by
two blanks a level with one item a line. Empty lists and objects stay closed in
both. All other characters, controls included, are written as UTF-16 units, so
a pair stands for a character beyond the basic plane and a lone surrogate for
itself.

Each layout is a recursion over values, their items and their members, and
yields a list of characters. A proof about printed text follows the value down
to the strings in it, so what it needs of the printer are its equations.
-/
import Pkcs12.Json.Value
import Pkcs12.Number.Layout
import Pkcs12.Text.Quoted

namespace Pkcs12.Json

-- =========================================================== scalars

/-- One UTF-16 unit by its number. -/
def unit (n : Nat) : List Char :=
  '\\' :: 'u' :: Text.Quoted.hexDigits 4 n

/-- One code point between quotation marks. -/
def escape (c : CodePoint) : List Char :=
  let n := c.val
  if n = 0x22 then ['\\', '"']
  else if n = 0x5C then ['\\', '\\']
  else if n = 0x0A then ['\\', 'n']
  else if n = 0x0D then ['\\', 'r']
  else if n = 0x09 then ['\\', 't']
  else if n = 0x08 then ['\\', 'b']
  else if n = 0x0C then ['\\', 'f']
  else if 0x20 ≤ n ∧ n < 0x7F then [Char.ofNat n]
  else if n < 0x10000 then unit n
  else unit (0xD800 + (n - 0x10000) / 1024) ++ unit (0xDC00 + (n - 0x10000) % 1024)

/-- A text between quotation marks. -/
def quote (t : Text) : List Char :=
  '"' :: t.flatMap escape ++ ['"']

/-- The words for numbers that JSON proper does not have. -/
def special : Binary64.Special := ⟨"NaN", "Infinity"⟩

def truth (b : Bool) : List Char :=
  (if b then "true" else "false").toList

-- ====================================================== on one line

mutual

/-- The value on one line. -/
def line : Json → List Char
  | .null => "null".toList
  | .bool b => truth b
  | .int n => (toString n).toList
  | .number x => (x.shortestText special).toList
  | .text t => quote t
  | .list items => '[' :: lineItems items ++ [']']
  | .object members => '\x7b' :: lineMembers members ++ ['\x7d']

/-- The items of a list, commas between them. -/
def lineItems : List Json → List Char
  | [] => []
  | [v] => line v
  | v :: w :: rest => line v ++ ',' :: ' ' :: lineItems (w :: rest)

/-- The members of an object, commas between them. -/
def lineMembers : List (Text × Json) → List Char
  | [] => []
  | [(k, v)] => quote k ++ ':' :: ' ' :: line v
  | (k, v) :: m :: rest => quote k ++ ':' :: ' ' :: line v ++ ',' :: ' ' :: lineMembers (m :: rest)

end

-- ========================================================== indented

/-- A new line at the given level. -/
def newLine (level : Nat) : List Char :=
  '\n' :: List.replicate (2 * level) ' '

mutual

/-- The value with one item a line, its first line being at `level`. -/
def block (level : Nat) : Json → List Char
  | .null => "null".toList
  | .bool b => truth b
  | .int n => (toString n).toList
  | .number x => (x.shortestText special).toList
  | .text t => quote t
  | .list [] => ['[', ']']
  | .list (v :: rest) => '[' :: blockItems (level + 1) (v :: rest) ++ newLine level ++ [']']
  | .object [] => ['\x7b', '\x7d']
  | .object (m :: rest) =>
    '\x7b' :: blockMembers (level + 1) (m :: rest) ++ newLine level ++ ['\x7d']

/-- The items of a list, each on a line of its own. -/
def blockItems (level : Nat) : List Json → List Char
  | [] => []
  | [v] => newLine level ++ block level v
  | v :: w :: rest => newLine level ++ block level v ++ ',' :: blockItems level (w :: rest)

/-- The members of an object, each on a line of its own. -/
def blockMembers (level : Nat) : List (Text × Json) → List Char
  | [] => []
  | [(k, v)] => newLine level ++ quote k ++ ':' :: ' ' :: block level v
  | (k, v) :: m :: rest =>
    newLine level ++ quote k ++ ':' :: ' ' :: block level v
      ++ ',' :: blockMembers level (m :: rest)

end

def compact (v : Json) : String :=
  String.ofList (line v)

/-- The indented text of a value, keys in order. -/
def indented (v : Json) : String :=
  String.ofList (block 0 v.sortKeys)

end Pkcs12.Json
