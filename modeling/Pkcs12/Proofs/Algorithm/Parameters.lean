/-
Scheme parameters survive their encoded form: a salt and a count are read from
the octets that they are written in.

# Values and members

Two things happen when parameters are read. The octets are taken apart into a
salt and an integer (`parts?`), and the integer is checked to be a count
(`fromData`). The first has nothing to do with the second, so the encoded
form is defined for a salt with *any* integer, `encoded`, of which
`SchemeParameters.toDer` is the case of a count. That an integer below one is
no count shows only when the members have been read, and is then a fault of
the data and of nothing else (`fromData_eq_error_iff`).

# Reading back

Both members are written in distinguished form, so they are read one after the
other and denote what they were written for (`parts?_encoded`), however long
the salt and however large the count, as long as the whole has a length that
can be read. A length that can be read is more than one that can be stated,
and the gap is large enough for two members and their headers: so it suffices
that the lengths of salt and integer can be stated each by itself, which is
`Statable` (`Statable.length_lt`).

# Other forms

Reading accepts more than what is written: lengths that are not minimal, open
sequences, strings in pieces, members behind the second. `Encodes` states by
the elements that are read what all these have in common, and
`parts?_eq_some_iff` that nothing else is accepted. With it the refusal of
integers below one is said of every readable form, and not only of the
written one.
-/
import Mathlib.Data.Option.Basic
import Pkcs12.Algorithm
import Pkcs12.Proofs.Der.Primitive
import Pkcs12.Proofs.Outcome

namespace Pkcs12.SchemeParameters

open Der Outcome

-- ============================================================== values

/-- Values that are taken are taken as they are: no default, no rounding. -/
theorem fromData_eq_ok_iff {salt : Bytes} {iterations : Int} {p : SchemeParameters} :
    fromData salt iterations = .ok p ↔ p.salt = salt ∧ (p.iterations : Int) = iterations := by
  rw [fromData, new?]
  constructor
  · intro h
    split at h
    next q hq =>
      cases h
      split at hq
      next hpos =>
        cases hq
        exact ⟨rfl, Int.toNat_of_nonneg (by omega)⟩
      next => cases hq
    next => cases h
  · rintro ⟨rfl, rfl⟩
    have := p.iterations_pos
    rw [dif_pos (by omega)]
    rfl

/-- A count below one, and no other, is a fault of the data. -/
theorem fromData_eq_error_iff {salt : Bytes} {iterations : Int} :
    fromData salt iterations = .error (.format .schemeCount) ↔ iterations < 1 := by
  rw [fromData, new?]
  split
  next q hq =>
    split at hq
    next hpos =>
      refine ⟨fun h => (nomatch h), fun hbelow => ?_⟩
      omega
    next => cases hq
  next hq =>
    split at hq
    next => cases hq
    next hbelow => exact ⟨fun _ => Int.not_le.1 hbelow, fun _ => rfl⟩

-- ======================================================== encoded form

/-- The encoded form of a salt and an integer in the place of the count, be it a
count or not. -/
def encoded (salt : Bytes) (iterations : Int) : Bytes :=
  writeSequence [write .octetString salt, write .integer (writeInt iterations)]

def members (salt : Bytes) (iterations : Int) : List Element :=
  [.distinguished .octetString salt, .distinguished .integer (writeInt iterations)]

/-- A salt and an integer whose lengths the encoding can state, each in the header
of its own member. -/
def Statable (salt : Bytes) (iterations : Int) : Prop :=
  salt.length < lengthBound ∧ (writeInt iterations).length < lengthBound

theorem toDer_eq_encoded (p : SchemeParameters) : p.toDer = encoded p.salt p.iterations := rfl

section

variable {salt : Bytes} {iterations : Int}

theorem encoded_eq (salt : Bytes) (iterations : Int) :
    encoded salt iterations
      = write .sequence ((members salt iterations).flatMap Element.octets) := by
  rw [encoded, writeSequence, members, List.flatMap_cons, List.flatMap_singleton,
    Element.octets_distinguished, Element.octets_distinguished, List.flatten_cons,
    List.flatten_singleton]

theorem length_contents_lt {bound : Nat} (h : (encoded salt iterations).length < bound) :
    ((members salt iterations).flatMap Element.octets).length < bound := by
  rw [encoded_eq] at h
  exact Nat.lt_of_le_of_lt (Element.length_le_length_write _ _) h

private theorem length_flatMap_members (salt : Bytes) (iterations : Int) :
    ((members salt iterations).flatMap Element.octets).length
      = (write .octetString salt).length + (write .integer (writeInt iterations)).length := by
  rw [members, List.flatMap_cons, List.flatMap_singleton, List.length_append,
    Element.octets_distinguished, Element.octets_distinguished]

/-- Members whose lengths can be stated have a length together that can be read:
two lengths and two headers fit between the two bounds. -/
theorem Statable.length_lt (h : Statable salt iterations) :
    ((members salt iterations).flatMap Element.octets).length < readableBound := by
  have hsalt := Element.length_write_le .octetString h.1
  have hcount := Element.length_write_le .integer h.2
  have hroom : lengthBound + 128 + (lengthBound + 128) ≤ readableBound := by decide
  obtain ⟨hsaltLength, hcountLength⟩ := h
  rw [length_flatMap_members]
  omega

/-- The length of an integer that can be named in decimal can be stated, by far: a
numeral has few digits, and each takes less than an octet. -/
theorem statable_of_lt_bound (hsalt : salt.length < lengthBound)
    (hcount : iterations.natAbs < Numeral.bound) : Statable salt iterations := by
  have hroom : 2 * Numeral.bound ≤ 256 ^ 4300 := by decide +kernel
  have hlength := length_writeInt_le (n := iterations) (k := 4300) (by decide) (by omega)
  exact ⟨hsalt, Nat.lt_of_le_of_lt hlength (by decide)⟩

/-- Both members can be read if they can be read together, since neither is longer
than the whole. -/
theorem isDistinguished_of_mem_members
    (h : ((members salt iterations).flatMap Element.octets).length < readableBound) :
    ∀ e ∈ members salt iterations, e.IsDistinguished := by
  have hsalt := Element.length_le_length_write .octetString salt
  have hcount := Element.length_le_length_write .integer (writeInt iterations)
  rw [length_flatMap_members] at h
  intro e he
  rw [members, List.mem_cons, List.mem_singleton] at he
  rcases he with rfl | rfl
  · exact Element.isDistinguished (by decide) (by omega)
  · exact Element.isDistinguished (by decide) (by omega)

/-- Salt and integer are read from the members that hold them. The members are
distinguished, so there are exactly these two. -/
theorem parts?_encoded
    (h : ((members salt iterations).flatMap Element.octets).length < readableBound) :
    parts? (encoded salt iterations) = some (salt, iterations) := by
  have hmembers := Element.members_distinguished (isDistinguished_of_mem_members h) .sequence
  have hsalt : isOctetString (.distinguished .octetString salt) = true := rfl
  -- the tests of the definition in their order: one element, a sequence, its
  -- members, the type of the first, the type of the second
  rw [parts?, encoded_eq, Element.readOnly_write (by decide) h, some_bind,
    guard_bind (Element.tag_distinguished _ _), hmembers, some_bind, members]
  simp only
  rw [guard_bind hsalt, guard_bind (Element.tag_distinguished _ _), readOctets_distinguished,
    some_bind]
  exact congrArg (fun count => some (salt, count)) (readInt_writeInt iterations)

end

/-- Parameters are read from their encoded form. -/
theorem ofDer_of_length_lt {p : SchemeParameters} (h : p.toDer.length < readableBound) :
    ofDer p.toDer = .ok p := by
  rw [toDer_eq_encoded] at h ⊢
  rw [ofDer, parts?_encoded (length_contents_lt h)]
  exact fromData_eq_ok_iff.2 ⟨rfl, rfl⟩

theorem ofDer_of_statable {p : SchemeParameters} (h : Statable p.salt p.iterations) :
    ofDer p.toDer = .ok p := by
  rw [toDer_eq_encoded, ofDer, parts?_encoded h.length_lt]
  exact fromData_eq_ok_iff.2 ⟨rfl, rfl⟩

-- ================================================== other encoded forms

/-- Octets that are a sequence of an octet string and of an integer, and perhaps
of more, in whatever form they can be read. -/
def Encodes (der salt : Bytes) (iterations : Int) : Prop :=
  ∃ outer first second rest, Element.readOnly der = some outer ∧ outer.tag = .sequence
    ∧ outer.members = some (first :: second :: rest) ∧ isOctetString first = true
    ∧ readOctets first = some salt ∧ second.tag = .integer
    ∧ readInt second.contents = iterations

section

variable {der salt : Bytes} {iterations : Int}

/-- Salt and integer are those of such a sequence: reading accepts it, and
accepts nothing that is not one. -/
theorem parts?_eq_some_iff :
    parts? der = some (salt, iterations) ↔ Encodes der salt iterations := by
  constructor
  · intro h
    obtain ⟨outer, houter, h⟩ := Option.bind_eq_some_iff.1 h
    obtain ⟨_, hsequence, h⟩ := Option.bind_eq_some_iff.1 h
    obtain ⟨members, hmembers, h⟩ := Option.bind_eq_some_iff.1 h
    -- fewer than two members end the reading; of more, the others are not
    -- looked at
    match members, hmembers, h with
    | first :: second :: rest, hmembers, h =>
      obtain ⟨_, hfirst, h⟩ := Option.bind_eq_some_iff.1 h
      obtain ⟨_, hsecond, h⟩ := Option.bind_eq_some_iff.1 h
      obtain ⟨octets, hoctets, h⟩ := Option.bind_eq_some_iff.1 h
      cases h
      exact ⟨outer, first, second, rest, houter, (Option.guard_eq_some' _).1 hsequence, hmembers,
        (Option.guard_eq_some' _).1 hfirst, hoctets, (Option.guard_eq_some' _).1 hsecond, rfl⟩
  · rintro ⟨outer, first, second, rest, houter, hsequence, hmembers, hfirst, hoctets, hsecond, rfl⟩
    rw [parts?, houter, some_bind, guard_bind hsequence, hmembers, some_bind]
    simp only
    rw [guard_bind hfirst, guard_bind hsecond, hoctets, some_bind]
    rfl

theorem encodes_encoded (h : Statable salt iterations) :
    Encodes (encoded salt iterations) salt iterations :=
  parts?_eq_some_iff.1 (parts?_encoded h.length_lt)

/-- An integer below one is no count, in whatever form it is encoded. -/
private theorem ofDer_of_encodes_of_lt (h : Encodes der salt iterations) (hbelow : iterations < 1) :
    ofDer der = .error (.format .schemeCount) := by
  rw [ofDer, parts?_eq_some_iff.2 h]
  exact fromData_eq_error_iff.2 hbelow

end

-- ========================================================= all together

/-- Salt and count survive their encoded form. A salt and a count from one
on make parameters, and these are read from their encoded form; so different
parameters have different encoded forms. An integer below one in the place
of the count is refused as a fault of the data, in the form that parameters
are written in and in every other form that can be read. Of a salt and an
integer that are written it is asked that the encoding can state their
lengths. -/
theorem ofDer_encoded :
    (∀ salt iterations, 1 ≤ iterations → Statable salt iterations →
        ∃ p, new salt iterations = .ok p ∧ p.salt = salt ∧ (p.iterations : Int) = iterations
          ∧ ofDer p.toDer = .ok p)
      ∧ (∀ p q : SchemeParameters, Statable p.salt p.iterations → Statable q.salt q.iterations →
          p.toDer = q.toDer → p = q)
      ∧ (∀ p : SchemeParameters, p.toDer = encoded p.salt p.iterations)
      ∧ (∀ salt iterations, Statable salt iterations →
          Encodes (encoded salt iterations) salt iterations)
      ∧ ∀ der salt iterations, Encodes der salt iterations → iterations < 1 →
          ofDer der = .error (.format .schemeCount) := by
  refine ⟨?_, ?_, toDer_eq_encoded, fun _ _ => encodes_encoded,
    fun _ _ _ => ofDer_of_encodes_of_lt⟩
  · -- making parameters and reading them back
    intro salt iterations hpos hstatable
    have hcount : (iterations.toNat : Int) = iterations := Int.toNat_of_nonneg (by omega)
    refine ⟨⟨salt, iterations.toNat, by omega⟩, ?_, rfl, hcount, ?_⟩
    · rw [new, new?, dif_pos hpos]
    · rw [← hcount] at hstatable
      exact ofDer_of_statable hstatable
  · -- equal encoded forms are read as one, so the parameters were equal
    intro p q hp hq heq
    have hread := ofDer_of_statable hp
    rw [heq, ofDer_of_statable hq] at hread
    injection hread with hread
    exact hread.symm

/-- A salt whose length takes two octets, and integers that need an octet
for their sign alone: 128 is a count, and -129 is none. -/
theorem ofDer_encoded_long :
    ∃ p, new (List.replicate 200 0xA5) 128 = .ok p ∧ ofDer p.toDer = .ok p
      ∧ ofDer (encoded (List.replicate 200 0xA5) (-129)) = .error (.format .schemeCount) := by
  obtain ⟨hread, -, -, hencodes, hrefused⟩ := ofDer_encoded
  have hroom : 200 < lengthBound := by decide
  have hstatable (iterations : Int) (h : 2 * iterations.natAbs < 256 ^ 2) :
      Statable (List.replicate 200 0xA5) iterations := by
    have hcount := length_writeInt_le (by decide) h
    refine ⟨?_, by omega⟩
    rw [List.length_replicate]
    exact hroom
  obtain ⟨p, hnew, -, -, hp⟩ := hread _ 128 (by decide) (hstatable 128 (by decide))
  refine ⟨p, hnew, hp, ?_⟩
  exact hrefused _ _ _ (hencodes _ (-129) (hstatable (-129) (by decide))) (by decide)

end Pkcs12.SchemeParameters
