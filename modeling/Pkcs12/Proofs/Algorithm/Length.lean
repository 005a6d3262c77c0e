/-
An encoded identifier is not much shorter than its parameters, so where the
length of the encoded form can be stated, that of the parameters can, too.

# Why this needs a proof

Encoding reads the parameters as one element and puts octets in for it. If
the length of the parameters could not be stated, their header might be read
as another length, and what is put in might be shorter than they are. So
nothing can be assumed of the element that is read; only its size is known,
from the octets it was read from. What is put in for a sequence has at least
its contents (`length_parameterOctets?`), and a header is short even where
the length in it is not the one that was meant (`length_read_sequence`,
`length_readOnly_sequence`). Together these leave the parameters below
`readableBound`, and then they are read as they were meant, after all.

# Use

`length_parameters_lt` turns an assumption about the encoded form, which a
caller holds in hand, into the one about the parameters that reading them
back asks for.
-/
import Pkcs12.Proofs.Algorithm.RoundTrip

namespace Pkcs12

open Der Outcome

namespace Der

-- ============================================================= reading

/-- A length takes at most 128 octets, in whatever form it is: the first octet
counts the others with seven bits. -/
private theorem length_readLength {b rest : Bytes} {n : Option Nat}
    (h : readLength b = some (n, rest)) :
    b.length ≤ rest.length + 128 := by
  cases b with
  | nil => cases h
  | cons x b =>
      have hx := x.toNat_lt
      simp only [readLength] at h
      rw [List.length_cons]
      split at h
      · cases h
        omega
      · split at h
        · cases h
          omega
        · split at h
          · cases h
          · cases h
            rw [List.length_drop]
            omega

/-- The header of a sequence takes at most 129 octets. -/
private theorem length_read_sequence {h : Header} {b rest : Bytes}
    (hread : Header.read (Tag.sequence.octet :: b) = some (h, rest)) :
    b.length ≤ rest.length + 128 ∧ h.tag = .sequence := by
  rw [Header.read, readTag_octet (by decide)] at hread
  simp only at hread
  cases hlength : readLength b with
  | none =>
      rw [hlength] at hread
      cases hread
  | some parts =>
      obtain ⟨n, rest'⟩ := parts
      rw [hlength] at hread
      simp only at hread
      split at hread
      · cases hread
      · cases hread
        exact ⟨length_readLength hlength, rfl⟩

/-- One sequence is little longer than its contents: by its header, and by the two
octets that end an open one. -/
private theorem length_readOnly_sequence {e : Element} {b : Bytes}
    (h : Element.readOnly (Tag.sequence.octet :: b) = some e) :
    b.length ≤ e.contents.length + 130 ∧ e.tag = .sequence := by
  rw [Element.readOnly] at h
  split at h
  next e' hread =>
    cases h
    rw [Element.read] at hread
    split at hread
    · cases hread
    next header rest hheader =>
      obtain ⟨hle, htag⟩ := length_read_sequence hheader
      split at hread
      · cases hread
      next n hsize =>
        injection hread with hread
        obtain ⟨rfl, hrest⟩ := Prod.mk.inj hread
        have hmarker : header.markerSize ≤ 2 := by
          rw [Header.markerSize]
          split <;> omega
        have hall := List.drop_eq_nil_iff.1 hrest
        refine ⟨?_, htag⟩
        rw [List.length_take]
        omega
  · cases h

end Der

namespace Identifier

-- ============================================================= writing

/-- What is put in for a sequence has its contents. -/
private theorem length_parameterOctets? {e : Element} {octets : Bytes} (htag : e.tag = .sequence)
    (h : parameterOctets? e = some octets) : e.contents.length ≤ octets.length := by
  rw [parameterOctets?] at h
  split at h
  · cases h
    rw [Element.octets, List.length_append, List.length_append]
    omega
  · rw [if_pos (by rw [htag]; rfl)] at h
    cases h
    exact Element.length_le_length_write e.tag e.contents

theorem readOnly_of_parameterElement {a : Identifier} {element : Option Element}
    (h : a.parameterElement = .ok element) (hne : a.parameters ≠ []) :
    Element.readOnly a.parameters = element ∧ element.isSome := by
  rw [parameterElement, if_neg (by rwa [List.isEmpty_iff])] at h
  split at h
  next e hread =>
    split at h
    · cases h
      exact ⟨hread, rfl⟩
    · cases h
  · cases h

/-- When an identifier is encoded, its parameters are put in, and the whole is not
shorter than they are. -/
private theorem exists_parameterOctets? {a : Identifier} {der : Bytes} (h : a.toDer = .ok der)
    (hne : a.parameters ≠ []) :
    ∃ e octets, Element.readOnly a.parameters = some e ∧ parameterOctets? e = some octets
      ∧ octets.length ≤ der.length := by
  rw [toDer] at h
  obtain ⟨element, helement, h⟩ := bind_eq_ok_iff.1 h
  obtain ⟨hread, hsome⟩ := readOnly_of_parameterElement helement hne
  obtain ⟨e, rfl⟩ := Option.isSome_iff_exists.1 hsome
  cases hwrite : writeDotted? (Text.ofString a.algorithm) with
  | none =>
      simp only [hwrite] at h
      cases h
  | some contents =>
      cases hoctets : parameterOctets? e with
      | none =>
          simp only [hwrite, hoctets] at h
          cases h
      | some octets =>
          simp only [hwrite, hoctets] at h
          cases h
          refine ⟨e, octets, hread, hoctets, ?_⟩
          have hle := Element.length_le_length_write .sequence
            (write .objectIdentifier contents ++ octets)
          rw [List.length_append] at hle
          rw [writeSequence, List.flatten_cons, List.flatten_singleton]
          omega

/-- If the length of the encoded form can be stated, so can that of scheme
parameters in it. -/
theorem length_parameters_lt {a : Identifier} {p : SchemeParameters} {der : Bytes}
    (hparameters : a.parameters = p.toDer) (h : a.toDer = .ok der)
    (hlength : der.length < lengthBound) : a.parameters.length < lengthBound := by
  obtain ⟨contents, hcontents⟩ : ∃ contents, a.parameters = write .sequence contents :=
    ⟨_, hparameters⟩
  obtain ⟨e, octets, hread, hoctets, hle⟩ :=
    exists_parameterOctets? h (by rw [hcontents]; exact List.cons_ne_nil _ _)
  -- the element that is read bounds the parameters from above, the encoded
  -- form bounds the element
  have hroom : contents.length < readableBound := by
    rw [hcontents, write] at hread
    obtain ⟨hshort, htag⟩ := length_readOnly_sequence hread
    have hput := length_parameterOctets? htag hoctets
    have hbelow : lengthBound + 130 < readableBound := by decide
    rw [List.length_append] at hshort
    omega
  -- so the parameters are read as they were meant, and put in unchanged
  have hsame : e = .distinguished .sequence contents := by
    rw [hcontents, Element.readOnly_write (by decide) hroom] at hread
    exact (Option.some.inj hread).symm
  have hdistinguished : (Element.distinguished .sequence contents).IsDistinguished :=
    Element.isDistinguished (by decide) hroom
  rw [hsame, parameterOctets?_of_sequence hdistinguished rfl, Element.octets_distinguished,
    ← hcontents] at hoctets
  cases hoctets
  omega

end Identifier

end Pkcs12
