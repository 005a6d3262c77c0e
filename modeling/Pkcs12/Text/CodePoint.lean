/-
Text as it arrives from outside: a list of code points, surrogates
included.

# Why not strings

A password typed on a terminal, an argument or a variable with undecodable
octets, the name of a directory: each can hold a lone surrogate, which no
`String` can, and what becomes of one is part of the behaviour. So what
arrives from outside is a `Text`, and `toString?` says whether it is a
string. What the library writes itself (its messages, the dotted forms and
names that it compares with) stays a `String` and enters by `ofString`.

# Classes of code points

The classes of letters, digits and printable characters are large unions
of intervals. Such a class is the ascending list of the points where
membership changes, beginning from outside, and a point belongs to it
exactly when an odd number of boundaries lie at or below it (`within`).
The lists stand in the modules of their classes.
-/

namespace Pkcs12

/-- A Unicode code point, surrogates included. -/
abbrev CodePoint := Fin 0x110000

/-- A text as a list of code points. -/
abbrev Text := List CodePoint

namespace CodePoint

/-- The code point of a character. -/
def ofChar (c : Char) : CodePoint :=
  ⟨c.toNat, by
    have h : c.val.toNat < 0xD800 ∨ 0xDFFF < c.val.toNat ∧ c.val.toNat < 0x110000 := c.valid
    show c.val.toNat < 0x110000
    omega⟩

/-- Characters have code points of their own. -/
theorem ofChar_inj {x y : Char} : ofChar x = ofChar y ↔ x = y := by
  constructor
  · intro h
    have hval : (ofChar x).val = (ofChar y).val := by rw [h]
    exact Char.ext (UInt32.toNat_inj.1 hval)
  · rintro rfl
    rfl

/-- Surrogates are code points that stand for no character. -/
def isSurrogate (c : CodePoint) : Bool :=
  0xD800 ≤ c.val && c.val ≤ 0xDFFF

/-- The character of a code point that is no surrogate. -/
def toChar? (c : CodePoint) : Option Char :=
  if h : c.val.isValidChar then some (Char.ofNatAux c.val h) else none

/-- The surrogates that stand for the octets from 80 on, where these were
found to be no text. A name in the file system has such an octet there; of
any other surrogate it can have none. -/
def isEscapedOctet (c : CodePoint) : Bool :=
  0xDC80 ≤ c.val && c.val ≤ 0xDCFF

/-- The code point of a character has that character. -/
theorem toChar?_eq_some_iff {c : CodePoint} {x : Char} : c.toChar? = some x ↔ c = ofChar x := by
  constructor
  · intro h
    rw [toChar?, Option.dite_none_right_eq_some] at h
    obtain ⟨_, hx⟩ := h
    cases hx
    rfl
  · rintro rfl
    have hvalid : (ofChar x).val.isValidChar := x.valid
    rw [toChar?, dif_pos hvalid]
    rfl

/-- Whether a code point is the given character. -/
def isChar (c : CodePoint) (x : Char) : Bool :=
  c.val == x.toNat

/-- Membership in the class with these boundaries. -/
def within (boundaries : List Nat) (c : CodePoint) : Bool :=
  boundaries.countP (· ≤ c.val) % 2 == 1

end CodePoint

namespace Text

def ofString (s : String) : Text :=
  s.toList.map CodePoint.ofChar

/-- The string with these code points, unless one is a surrogate. -/
def toString? (t : Text) : Option String :=
  (t.mapM CodePoint.toChar?).map String.ofList

/-- Code points are the characters of a string when they are the code points
of these characters. -/
private theorem mapM_toChar?_eq_some_iff {t : Text} {cs : List Char} :
    t.mapM CodePoint.toChar? = some cs ↔ t = cs.map CodePoint.ofChar := by
  induction t generalizing cs with
  | nil =>
    cases cs with
    | nil => simp
    | cons x cs => simp
  | cons c t ih =>
    simp only [List.mapM_cons, Option.bind_eq_bind, Option.bind_eq_some_iff, ih,
      CodePoint.toChar?_eq_some_iff, Option.pure_def, Option.some.injEq]
    constructor
    · rintro ⟨x, rfl, cs, rfl, rfl⟩
      rfl
    · intro h
      cases cs with
      | nil => cases h
      | cons x cs =>
        cases h
        exact ⟨x, rfl, cs, rfl, rfl⟩

/-- A text is a string when it has the string's code points, and then it is
no other string. -/
theorem toString?_eq_some_iff {t : Text} {s : String} :
    t.toString? = some s ↔ t = ofString s := by
  rw [toString?, Option.map_eq_some_iff, ofString]
  constructor
  · rintro ⟨cs, hcs, rfl⟩
    rw [String.toList_ofList]
    exact mapM_toChar?_eq_some_iff.1 hcs
  · intro h
    exact ⟨s.toList, mapM_toChar?_eq_some_iff.2 h, String.ofList_toList⟩

/-- Cuts off code points of a class at both ends. -/
def trim (blank : CodePoint → Bool) (t : Text) : Text :=
  ((t.dropWhile blank).reverse.dropWhile blank).reverse

/-- Whether one text begins another. -/
def startsWith (t start : Text) : Bool :=
  start.isPrefixOf t

end Text

end Pkcs12
