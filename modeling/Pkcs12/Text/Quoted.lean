/-
A text between quotation marks, for messages that repeat what was read.
Single quotes are used unless the text holds some and no double one.
Backslashes and the quote itself get a backslash; line feed, carriage
return and tab have short forms; whatever else is not printable is written
by its number, in the shortest of two, four or eight digits that holds it.
The result is always a string, even for a text that holds surrogates.
-/
import Pkcs12.Text.Hex
import Pkcs12.Text.Printable

namespace Pkcs12.Text.Quoted

/-- A number in `width` hexadecimal digits, high digits cut off. -/
def hexDigits : Nat → Nat → List Char
  | 0, _ => []
  | width + 1, n => hexDigits width (n / 16) ++ [Hex.digit (n % 16)]

/-- The number form of a code point. -/
def numbered (c : CodePoint) : List Char :=
  if c.val ≤ 0xFF then '\\' :: 'x' :: hexDigits 2 c.val
  else if c.val ≤ 0xFFFF then '\\' :: 'u' :: hexDigits 4 c.val
  else '\\' :: 'U' :: hexDigits 8 c.val

/-- What stands for one code point between quotes of the given kind. -/
def escape (quote : Char) (c : CodePoint) : List Char :=
  if c.isChar '\\' then ['\\', '\\']
  else if c.isChar quote then ['\\', quote]
  else if c.isChar '\n' then ['\\', 'n']
  else if c.isChar '\r' then ['\\', 'r']
  else if c.isChar '\t' then ['\\', 't']
  else
    match c.toChar? with
    | some x => if c.isPrintable then [x] else numbered c
    | none => numbered c

/-- The quotation mark for a text. -/
def mark (t : Text) : Char :=
  if t.any (·.isChar '\'') && !t.any (·.isChar '"') then '"' else '\''

/-- The text between quotation marks. -/
def render (t : Text) : String :=
  let quote := mark t
  String.ofList (quote :: t.flatMap (escape quote) ++ [quote])

end Pkcs12.Text.Quoted
