/-
The two schemes are known by identifiers and by family names, and by nothing
else: a look-up succeeds exactly when a scheme has what is looked for, and it
is that scheme which is found.

# Strings and texts

An identifier is read from octets and a family name may arrive as a text, so
there are two look-ups by name. A text may hold points that no string has;
such a text names no scheme, as none of the names has them
(`ofText?_eq_some_iff`).
-/
import Pkcs12.Scheme

namespace Pkcs12.Scheme

theorem resolve_identifier (t : Scheme) : resolve t.identifier = .ok t := by
  cases t <;> rfl

/-- An identifier that no scheme has is reported as it was given. -/
theorem resolve_of_forall_ne {identifier : String} (h : ∀ t : Scheme, t.identifier ≠ identifier) :
    resolve identifier = .error (.unsupported identifier) := by
  have hnone : ofIdentifier? identifier = none := by
    rw [ofIdentifier?, List.find?_eq_none]
    intro t _
    simpa using h t
  rw [resolve, hnone]

theorem ofName?_eq_some_iff {name : String} {t : Scheme} :
    ofName? name = some t ↔ t.name = name := by
  constructor
  · intro h
    rw [ofName?] at h
    have hname := List.find?_some h
    exact eq_of_beq hname
  · rintro rfl
    cases t <;> rfl

/-- A text names the scheme whose name it is. -/
theorem ofText?_eq_some_iff {text : Text} {t : Scheme} :
    ofText? text = some t ↔ text = Text.ofString t.name := by
  rw [ofText?, Option.bind_eq_some_iff]
  simp only [Text.toString?_eq_some_iff, ofName?_eq_some_iff]
  constructor
  · rintro ⟨name, rfl, rfl⟩
    rfl
  · intro h
    exact ⟨t.name, h, rfl⟩

/-- A family name stands for the scheme that has it, and the look-up fails for
all other names. -/
theorem byName_eq_ok_iff {name : String} {t : Scheme} : byName name = .ok t ↔ t.name = name := by
  rw [← ofName?_eq_some_iff, byName]
  cases ofName? name with
  | some u => rw [Except.ok.injEq, Option.some.injEq]
  | none => exact ⟨fun h => (nomatch h), fun h => (nomatch h)⟩

theorem byName_name (t : Scheme) : byName t.name = .ok t :=
  byName_eq_ok_iff.2 rfl

end Pkcs12.Scheme
