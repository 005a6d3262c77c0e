/-
White space. Two classes differ in the four information separators
U+001C–U+001F: they count as blank when a name or an identifier is
trimmed, and do not when a number is read.
-/
import Pkcs12.Text.CodePoint

namespace Pkcs12

namespace CodePoint

/-- White space that may surround a number. -/
def isNumberBlank (c : CodePoint) : Bool :=
  let n := c.val
  (9 ≤ n && n ≤ 13) || n == 0x20 || n == 0x85 || n == 0xA0 || n == 0x1680
    || (0x2000 ≤ n && n ≤ 0x200A) || n == 0x2028 || n == 0x2029 || n == 0x202F
    || n == 0x205F || n == 0x3000

/-- White space in general: the above and the information separators. -/
def isBlank (c : CodePoint) : Bool :=
  c.isNumberBlank || (0x1C ≤ c.val && c.val ≤ 0x1F)

/-- White space of the ASCII range, which may stand between the octets of
a hexadecimal argument. -/
def isAsciiBlank (c : CodePoint) : Bool :=
  c.val == 0x20 || (9 ≤ c.val && c.val ≤ 13)

end CodePoint

/-- A text without the white space at its ends. -/
def Text.strip (t : Text) : Text :=
  t.trim CodePoint.isBlank

end Pkcs12
