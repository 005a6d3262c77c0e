/-
What reading an identifier comes to. Whatever the octets are, they are an
identifier, or they are refused as no encoded identifier, or the dotted form
that was read is refused as a value.

# The third outcome

It is not empty. The octets of an object identifier may end before its first
number does, or not begin at all; there is then no finished number in them,
and the decoder answers the empty dotted form, where the identifier asks for
at least two arcs. `readDotted?_cases` says that this is the only way to a
text that is no dotted form: as soon as one number is finished, there are two
arcs, and what is read has digits, a dot and digits again.

# The statement

`Encodes` describes by its elements what is taken for an encoded identifier,
and `Nameless` the part of it whose object identifier has no finished number.
Reading ends in an identifier or in the fault of the data for exactly the
octets that are not nameless, and in the refusal of the dotted form for the
nameless ones (`ofDer_outcomes`). The shortest of them is a sequence with an
empty object identifier.
-/
import Mathlib.Data.Option.Basic
import Pkcs12.Proofs.Algorithm.RoundTrip

namespace Pkcs12

open Der Outcome

namespace Der

-- ================================================= numbers in base 128

/-- Octets hold no finished number exactly when none of them is the last one of a
number. What is carried along from before makes no difference. -/
private theorem subidentifiers_eq_nil_iff (acc : Nat) (contents : Bytes) :
    subidentifiers acc contents = [] ↔ ∀ x ∈ contents, 128 ≤ x.toNat := by
  induction contents generalizing acc with
  | nil => simp [subidentifiers]
  | cons b rest ih =>
      rw [subidentifiers, List.forall_mem_cons]
      by_cases hlast : b.toNat < 128
      · rw [if_pos hlast]
        constructor
        · intro h
          cases h
        · rintro ⟨hb, -⟩
          omega
      · rw [if_neg hlast, ih]
        exact ⟨fun h => ⟨by omega, h⟩, fun h => h.2⟩

/-- A number stands for two arcs at least: the first one is always taken apart. -/
private theorem exists_arcsOfSubidentifiers (n : Nat) (rest : List Nat) :
    ∃ first second, arcsOfSubidentifiers (n :: rest) = first :: second :: rest := by
  rw [arcsOfSubidentifiers]
  split
  · exact ⟨_, _, rfl⟩
  · split
    · exact ⟨_, _, rfl⟩
    · exact ⟨_, _, rfl⟩

/-- What is read from octets with a finished number is a dotted form, and
from octets without one it is empty. -/
theorem readDotted?_cases {contents : Bytes} {algorithm : String}
    (h : readDotted? contents = some algorithm) :
    (algorithm = "" ∧ ∀ x ∈ contents, 128 ≤ x.toNat)
      ∨ (isDotted (Text.ofString algorithm) = true ∧ ¬ ∀ x ∈ contents, 128 ≤ x.toNat) := by
  rw [readDotted?, dottedOfArcs?] at h
  split at h
  next =>
    injection h with h
    rw [← subidentifiers_eq_nil_iff 0 contents]
    cases hnumbers : subidentifiers 0 contents with
    | nil =>
        rw [hnumbers] at h
        exact Or.inl ⟨h.symm, rfl⟩
    | cons n rest =>
        obtain ⟨first, second, harcs⟩ := exists_arcsOfSubidentifiers n rest
        rw [hnumbers, harcs] at h
        refine Or.inr ⟨?_, List.cons_ne_nil n rest⟩
        rw [← h]
        exact isDotted_dottedForm first second rest
  next => cases h

private theorem readDotted?_of_unfinished {contents : Bytes} (h : ∀ x ∈ contents, 128 ≤ x.toNat) :
    readDotted? contents = some "" := by
  rw [readDotted?, (subidentifiers_eq_nil_iff 0 contents).2 h]
  rfl

end Der

namespace Identifier

-- =============================================================== members

/-- The parameters in the members behind the object identifier: none if there are
no members, and otherwise the octets that stand for the first of them. -/
def parametersOf? : List Element → Option Bytes
  | [] => some []
  | second :: _ => if mayBeParameters second then parameterOctets? second else none

/-- Octets that are a sequence of an object identifier with contents `name`
and of what may be parameters. -/
def Encodes (der name parameters : Bytes) : Prop :=
  ∃ outer first rest, Element.readOnly der = some outer ∧ outer.tag = .sequence
    ∧ outer.members = some (first :: rest) ∧ first.tag = .objectIdentifier
    ∧ first.contents = name ∧ parametersOf? rest = some parameters

/-- What is read of the members behind the object identifier is what
`parametersOf?` says. -/
private theorem parts?_eq_parametersOf? (der : Bytes) :
    parts? der = (do
      let outer ← Element.readOnly der
      guard (outer.tag = .sequence)
      match ← outer.members with
      | [] => none
      | first :: rest => do
        guard (first.tag = .objectIdentifier)
        let algorithm ← readDotted? first.contents
        return (algorithm, ← parametersOf? rest)) := by
  rw [parts?]
  refine bind_congr fun outer => bind_congr fun _ => bind_congr fun members => ?_
  cases members with
  | nil => rfl
  | cons first rest =>
      refine bind_congr fun _ => bind_congr fun algorithm => ?_
      cases rest with
      | nil => rfl
      | cons second others =>
          rw [parametersOf?]
          simp only
          split
          next hmay => rw [guard_bind hmay]
          next hmay =>
            rw [guard, if_neg hmay]
            rfl

/-- The parts of an encoded identifier are those of such a sequence, and only such
a sequence has parts. -/
theorem parts?_eq_some_iff {der parameters : Bytes} {algorithm : String} :
    parts? der = some (algorithm, parameters)
      ↔ ∃ name, Encodes der name parameters ∧ readDotted? name = some algorithm := by
  rw [parts?_eq_parametersOf?]
  constructor
  · intro h
    obtain ⟨outer, houter, h⟩ := Option.bind_eq_some_iff.1 h
    obtain ⟨_, hsequence, h⟩ := Option.bind_eq_some_iff.1 h
    obtain ⟨members, hmembers, h⟩ := Option.bind_eq_some_iff.1 h
    cases members with
    | nil => cases h
    | cons first rest =>
        obtain ⟨_, hfirst, h⟩ := Option.bind_eq_some_iff.1 h
        obtain ⟨algorithm', hread, h⟩ := Option.bind_eq_some_iff.1 h
        obtain ⟨parameters', hrest, h⟩ := Option.bind_eq_some_iff.1 h
        cases h
        exact ⟨first.contents, ⟨outer, first, rest, houter, (Option.guard_eq_some' _).1 hsequence,
          hmembers, (Option.guard_eq_some' _).1 hfirst, rfl, hrest⟩, hread⟩
  · rintro ⟨name, ⟨outer, first, rest, houter, hsequence, hmembers, hfirst, rfl, hrest⟩, hread⟩
    rw [houter, some_bind, guard_bind hsequence, hmembers, some_bind]
    simp only
    rw [guard_bind hfirst, hread, some_bind, hrest, some_bind]
    rfl

/-- Octets that encode an identifier without a name: the object identifier
ends before its first number does. -/
def Nameless (der : Bytes) : Prop :=
  ∃ name parameters, Encodes der name parameters ∧ ∀ x ∈ name, 128 ≤ x.toNat

/-- The refusal of a text that is no dotted form. -/
def undotted : Error := .refused [⟨.algorithm, .dottedIdentifier⟩]

private theorem new_empty (parameters : Bytes) : new "" parameters = .error undotted := by
  have hempty : ¬ isDotted (Text.ofString (stripped "")) = true := by decide
  rw [new, dif_neg hempty]
  rfl

/-- A text that is read from an object identifier is an identifier's, unless it is
empty; which of the two it is shows in the octets. -/
private theorem new_of_readDotted? {name : Bytes} {algorithm : String}
    (h : readDotted? name = some algorithm) (parameters : Bytes) :
    (new algorithm parameters = .error undotted ∧ ∀ x ∈ name, 128 ≤ x.toNat)
      ∨ (∃ a, new algorithm parameters = .ok a) ∧ ¬ ∀ x ∈ name, 128 ≤ x.toNat := by
  rcases readDotted?_cases h with ⟨rfl, hall⟩ | ⟨hdotted, hsome⟩
  · exact Or.inl ⟨new_empty parameters, hall⟩
  · exact Or.inr ⟨⟨_, new_algorithm ⟨algorithm, parameters, hdotted⟩⟩, hsome⟩

/-- Reading has three outcomes: an identifier, the fault of the data, and the
refusal of the dotted form. The next theorem separates the third from the
others by the octets. -/
theorem ofDer_cases (der : Bytes) :
    (∃ a, ofDer der = .ok a) ∨ ofDer der = .error (.format .identifier)
      ∨ ofDer der = .error undotted := by
  rw [ofDer]
  cases hparts : parts? der with
  | none => exact Or.inr (Or.inl rfl)
  | some parts =>
      obtain ⟨algorithm, parameters⟩ := parts
      obtain ⟨name, -, hread⟩ := parts?_eq_some_iff.1 hparts
      rcases new_of_readDotted? hread parameters with ⟨hnew, -⟩ | ⟨hnew, -⟩
      · exact Or.inr (Or.inr hnew)
      · exact Or.inl hnew

/-- The dotted form is refused exactly for octets without a name. -/
theorem ofDer_eq_undotted_iff (der : Bytes) : ofDer der = .error undotted ↔ Nameless der := by
  constructor
  · intro h
    rw [ofDer] at h
    cases hparts : parts? der with
    | none =>
        rw [hparts] at h
        cases h
    | some parts =>
        obtain ⟨algorithm, parameters⟩ := parts
        rw [hparts] at h
        obtain ⟨name, hencodes, hread⟩ := parts?_eq_some_iff.1 hparts
        rcases new_of_readDotted? hread parameters with ⟨-, hall⟩ | ⟨⟨a, ha⟩, -⟩
        · exact ⟨name, parameters, hencodes, hall⟩
        · cases h.symm.trans ha
  · rintro ⟨name, parameters, hencodes, hall⟩
    have hparts := parts?_eq_some_iff.2 ⟨name, hencodes, readDotted?_of_unfinished hall⟩
    rw [ofDer, hparts]
    exact new_empty parameters

/-- Reading an identifier answers one or finds a fault of the data, for all
octets but those without a name; these are encoded correctly, and what they
encode is refused as a value. -/
theorem ofDer_outcomes (der : Bytes) :
    ((∃ a, ofDer der = .ok a) ∨ ofDer der = .error (.format .identifier) ↔ ¬ Nameless der)
      ∧ (Nameless der → ofDer der = .error undotted) := by
  refine ⟨⟨?_, ?_⟩, (ofDer_eq_undotted_iff der).2⟩
  · intro hread hnameless
    have hrefused := (ofDer_eq_undotted_iff der).2 hnameless
    rcases hread with ⟨a, ha⟩ | hfault
    · cases hrefused.symm.trans ha
    · cases hrefused.symm.trans hfault
  · intro hnamed
    rcases ofDer_cases der with hok | hfault | hrefused
    · exact Or.inl hok
    · exact Or.inr hfault
    · exact absurd ((ofDer_eq_undotted_iff der).1 hrefused) hnamed

/-- Not every refusal is a fault of the data: a sequence with an empty
object identifier is read, and what is read is refused as a value. -/
theorem ofDer_empty_name :
    ofDer [0x30, 0x02, 0x06, 0x00] = .error undotted
      ∧ ¬ ∀ der, (∃ a, ofDer der = .ok a) ∨ ∃ fault, ofDer der = .error (.format fault) := by
  have hread : ofDer [0x30, 0x02, 0x06, 0x00] = .error undotted := by
    refine (ofDer_eq_undotted_iff _).2 ⟨[], [], ?_, by simp⟩
    exact ⟨_, _, [], rfl, rfl, rfl, rfl, rfl, rfl⟩
  refine ⟨hread, fun hall => ?_⟩
  rcases hall [0x30, 0x02, 0x06, 0x00] with ⟨a, ha⟩ | ⟨fault, hfault⟩
  · cases hread.symm.trans ha
  · cases hread.symm.trans hfault

end Identifier

end Pkcs12
