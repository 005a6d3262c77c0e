/-
The password-based encryption schemes that are supported, both over SHA-1:
three-key triple DES and RC2 with forty key bits.

A scheme is known by its object identifier, as encoded data name it, and by
its family name, as settings and the command line do. Either way a name that
no scheme has is an error that repeats the name. What depends on a scheme is
its key length and its cipher; blocks and initial vectors are of eight octets
in both.
-/
import Pkcs12.Cipher.Rc2
import Pkcs12.Cipher.TripleDes

namespace Pkcs12

/-- A password-based encryption scheme. -/
inductive Scheme where
  | tripleDes
  | rc2
deriving DecidableEq, Repr

namespace Scheme

/-- The family name. -/
def name : Scheme → String
  | .tripleDes => "pbeWithSHAAnd3-KeyTripleDES-CBC"
  | .rc2 => "pbeWithSHAAnd40BitRC2-CBC"

def identifier : Scheme → String
  | .tripleDes => "1.2.840.113549.1.12.1.3"
  | .rc2 => "1.2.840.113549.1.12.1.6"

def keyLength : Scheme → Nat
  | .tripleDes => 24
  | .rc2 => 5

def ivLength : Scheme → Nat
  | _ => 8

def blockSize : Scheme → Nat
  | _ => 8

/-- The cipher of the scheme under a key. -/
def cipher : Scheme → Bytes → Except Error BlockCipher
  | .tripleDes => TripleDes.new
  | .rc2 => Rc2.new

/-- All schemes, in the order of their names. -/
def all : List Scheme := [.tripleDes, .rc2]

def ofIdentifier? (identifier : String) : Option Scheme :=
  all.find? (·.identifier == identifier)

def ofName? (name : String) : Option Scheme :=
  all.find? (·.name == name)

/-- The scheme with a family name that arrives as a text. A text that is no
string is no name. -/
def ofText? (t : Text) : Option Scheme :=
  t.toString?.bind ofName?

/-- The scheme that an object identifier stands for. -/
def resolve (identifier : String) : Except Error Scheme :=
  match ofIdentifier? identifier with
  | some s => .ok s
  | none => .error (.unsupported identifier)

/-- The scheme of a family name. -/
def byName (name : String) : Except Error Scheme :=
  match ofName? name with
  | some s => .ok s
  | none => .error (.unsupported name)

/-- Whether an object identifier stands for a scheme. -/
def supports (identifier : String) : Bool :=
  (ofIdentifier? identifier).isSome

theorem mem_all (s : Scheme) : s ∈ all := by
  cases s <;> decide

end Scheme

end Pkcs12
