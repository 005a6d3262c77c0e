/-
Passwords as octets: UTF-16 with the most significant octet first, closed by a
zero unit.

Only characters of the basic multilingual plane have a form. The whole text is
searched for others before a surrogate is reported, so of two reasons to
refuse a password it is the former that shows. The closing unit makes sure
that a password has octets even if it has no characters.
-/
import Pkcs12.Bytes
import Pkcs12.Error

namespace Pkcs12.Password

/-- The two octets of a code point below 2¹⁶. -/
def unit (c : CodePoint) : Bytes :=
  [UInt8.ofNat (c.val / 256), UInt8.ofNat (c.val % 256)]

/-- The units of a text and the closing one. -/
def octets (t : Text) : Bytes :=
  t.flatMap unit ++ [0, 0]

/-- The first surrogate of a text with its position, counted from `i`. -/
def firstSurrogate? (i : Nat) : Text → Option (CodePoint × Nat)
  | [] => none
  | c :: rest => if c.isSurrogate then some (c, i) else firstSurrogate? (i + 1) rest

/-- The octets of a password. -/
def encode (t : Text) : Except Error Bytes :=
  if t.any fun c => 0xFFFF < c.val then .error (.format .astralPassword)
  else
    match firstSurrogate? 0 t with
    | some (c, i) => .error (.misuse (.unencodable ⟨.utf16BigEndian, c, i, i⟩))
    | none => .ok (octets t)

end Pkcs12.Password
