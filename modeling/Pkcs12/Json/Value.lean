/-
JSON values, as reports and command output need them: integers of any
size are kept apart from binary64 numbers, and an object remembers the
order of its members.
-/
import Pkcs12.Number.Binary64
import Pkcs12.Text.CodePoint

namespace Pkcs12

inductive Json where
  | null
  | bool (value : Bool)
  | int (value : Int)
  | number (value : Binary64)
  | text (value : Text)
  | list (items : List Json)
  | object (members : List (Text × Json))

namespace Json

/-- A value for an ordinary string. -/
def str (s : String) : Json :=
  .text (Text.ofString s)

/-- An object whose keys are ordinary strings. -/
def record (members : List (String × Json)) : Json :=
  .object (members.map fun m => (Text.ofString m.1, m.2))

-- ========================================================= key order

mutual

/-- The value with the members of every object in the order of their keys,
compared code point by code point. -/
def sortKeys : Json → Json
  | .null => .null
  | .bool b => .bool b
  | .int n => .int n
  | .number x => .number x
  | .text t => .text t
  | .list items => .list (sortItems items)
  | .object members => .object ((sortMembers members).mergeSort fun a b => a.1 ≤ b.1)

/-- `sortKeys` on the items of a list. -/
def sortItems : List Json → List Json
  | [] => []
  | v :: rest => sortKeys v :: sortItems rest

/-- `sortKeys` on the values of an object, whose own order stays. -/
def sortMembers : List (Text × Json) → List (Text × Json)
  | [] => []
  | (k, v) :: rest => (k, sortKeys v) :: sortMembers rest

end

end Json

end Pkcs12
