/-
Why a text has no encoded form. Both encodings in use, UTF-8 for plaintext
and UTF-16 for passwords, refuse surrogates; they differ in how much of a
run of surrogates one refusal covers.
-/
import Pkcs12.Text.Quoted

namespace Pkcs12

inductive Encoding where
  | utf8
  | utf16BigEndian
deriving DecidableEq, Repr

def Encoding.label : Encoding → String
  | .utf8 => "utf-8"
  | .utf16BigEndian => "utf-16-be"

/-- A refusal to encode: the positions `first` to `last` hold surrogates,
of which `point` is the first. -/
structure Unencodable where
  encoding : Encoding
  point : CodePoint
  first : Nat
  last : Nat
deriving DecidableEq, Repr

/-- One refused code point is shown, a run of them is counted only. -/
def Unencodable.message (u : Unencodable) : String :=
  let subject :=
    if u.first = u.last then
      let shown := String.ofList (Text.Quoted.numbered u.point)
      s!"character '{shown}' in position {u.first}"
    else s!"characters in position {u.first}-{u.last}"
  s!"'{u.encoding.label}' codec can't encode {subject}: surrogates not allowed"

end Pkcs12
