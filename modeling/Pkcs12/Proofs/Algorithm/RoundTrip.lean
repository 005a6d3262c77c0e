/-
Identifiers survive their encoded form, as they are given and as they are made
for encryption.

# What is encoded

Encoding writes a sequence of the object identifier and of the parameters, if
there are any. The object identifier is read as the dotted form it was
written from (`exists_writeDotted?_dottedForm`), and the text is kept by the
identifier without a change, since it has no blanks to be stripped
(`stripped_algorithm`).

Parameters come back octet for octet, but that takes a reason: encoding first
reads them as one element and then puts in the octets of that element, or, in
one case, a new header and its contents. `Holds` states of parameters that
they are nothing or one distinguished sequence, by the element that is read
from them, and for such a one both ways of putting it in are the same
(`parameterOctets?_of_sequence`). The invariant of the whole translation is
then that all members are distinguished, and reading follows member by member
(`parts?_eq`).

# What is made for encryption

`forEncryption_eq_ok_iff` describes the identifiers that are made: the scheme
with the family name, the salt and the count that were given or what stands
in for them. They are identifiers of the kind above, with parameters that are
one sequence, and salt and count are read from them again.

# Lengths

All of this is about lengths that the encoding can state. The rules end at
`lengthBound`, far beyond what any store holds, and the statements below say
so where a length is not already given in its minimal form.
-/
import Pkcs12.Proofs.Algorithm.Parameters
import Pkcs12.Proofs.Der.ObjectIdentifier
import Pkcs12.Proofs.Scheme
import Pkcs12.Proofs.Settings

namespace Pkcs12

open Der Outcome

namespace Identifier

-- ============================================================ algorithm

/-- Dotted identifiers have no blanks at their ends, so an identifier keeps the
text that it was given. -/
private theorem stripped_algorithm (a : Identifier) : stripped a.algorithm = a.algorithm := by
  -- from either end nothing is dropped
  have hkept (cs : List Char) (h : ∀ c ∈ cs, (CodePoint.ofChar c).isBlank = false) :
      (cs.dropWhile fun c => (CodePoint.ofChar c).isBlank) = cs := by
    cases cs with
    | nil => rfl
    | cons c cs => rw [List.dropWhile_cons_of_neg (by simp [h c List.mem_cons_self])]
  have hblank : ∀ c ∈ a.algorithm.toList, (CodePoint.ofChar c).isBlank = false := by
    intro c hc
    exact isBlank_of_isDotted a.dotted (List.mem_map_of_mem hc)
  simp only [stripped]
  rw [hkept _ hblank, hkept _ fun c hc => hblank c (List.mem_reverse.1 hc), List.reverse_reverse,
    String.ofList_toList]

/-- An identifier is what is made from its algorithm and its parameters. -/
theorem new_algorithm (a : Identifier) : new a.algorithm a.parameters = .ok a := by
  have hstripped := a.stripped_algorithm
  have hdotted : isDotted (Text.ofString (stripped a.algorithm)) = true := by
    rw [hstripped]
    exact a.dotted
  have hmake (s : String) (hs : isDotted (Text.ofString s) = true) (heq : s = a.algorithm) :
      (⟨s, a.parameters, hs⟩ : Identifier) = a := by
    subst heq
    rfl
  rw [new, dif_pos hdotted, hmake _ _ hstripped]

-- =========================================================== parameters

/-- Parameters that are nothing or one sequence, given by what is read from them.
With the element at hand, both encoding and reading are rewriting. -/
structure Holds (parameters : Bytes) (element : Option Element) : Prop where
  octets : parameters = element.toList.flatMap Element.octets
  distinguished : ∀ e ∈ element.toList, e.IsDistinguished
  sequence : ∀ e ∈ element.toList, e.tag = .sequence

/-- Parameters that are stated by their octets are such, and little longer than
their contents. -/
private theorem exists_holds {parameters : Bytes} (h : parameters = [] ∨ IsSequence parameters) :
    ∃ element, Holds parameters element ∧ parameters.length < lengthBound + 128 := by
  rcases h with rfl | h
  · refine ⟨none, ⟨rfl, ?_, ?_⟩, by decide⟩
    · intro e he
      cases he
    · intro e he
      cases he
  · obtain ⟨contents, hcontents, rfl⟩ := isSequence_iff.1 h
    have hroom : contents.length < readableBound :=
      Nat.lt_trans hcontents lengthBound_lt_readableBound
    refine ⟨some (.distinguished .sequence contents), ⟨?_, ?_, ?_⟩, ?_⟩
    · rw [Option.toList_some, List.flatMap_singleton, Element.octets_distinguished]
    · rintro e he
      rw [Option.toList_some, List.mem_singleton] at he
      rw [he]
      exact Element.isDistinguished (by decide) hroom
    · rintro e he
      rw [Option.toList_some, List.mem_singleton] at he
      rw [he, Element.tag_distinguished]
    · have hle := Element.length_write_le .sequence hcontents
      omega

private theorem mayBeParameters_of_sequence {e : Element} (h : e.tag = .sequence) :
    mayBeParameters e = true := by
  rw [mayBeParameters, h]
  rfl

/-- One sequence is a parameters element, and read as the element it was written
from. -/
private theorem parameterElement_eq {a : Identifier} {element : Option Element}
    (h : Holds a.parameters element) : a.parameterElement = .ok element := by
  rw [parameterElement, h.octets]
  cases element with
  | none => rfl
  | some e =>
      have he := h.distinguished e List.mem_cons_self
      have hmay := mayBeParameters_of_sequence (h.sequence e List.mem_cons_self)
      have hne : ([e].flatMap Element.octets).isEmpty = false := by
        rw [List.flatMap_singleton, he.octets_eq]
        rfl
      rw [Option.toList_some, hne, List.flatMap_singleton, he.readOnly_octets]
      simp only
      rw [if_pos hmay]
      rfl

/-- A sequence is put in as it is, with its own header or the one that
would be written for it. -/
theorem parameterOctets?_of_sequence {e : Element} (h : e.IsDistinguished)
    (hsequence : e.tag = .sequence) : parameterOctets? e = some e.octets := by
  rw [parameterOctets?]
  split
  · rfl
  · rw [if_pos (by rw [hsequence]; rfl), h.octets_eq_write]

-- ========================================================= encoded form

/-- The members of an encoded identifier. -/
def members (contents : Bytes) (element : Option Element) : List Element :=
  .distinguished .objectIdentifier contents :: element.toList

/-- An identifier is encoded as a sequence of its object identifier and of its
parameters, if there are any. -/
theorem toDer_eq {a : Identifier} {contents : Bytes} {element : Option Element}
    (hcontents : writeDotted? (Text.ofString a.algorithm) = some contents)
    (h : Holds a.parameters element) :
    a.toDer = .ok (write .sequence ((members contents element).flatMap Element.octets)) := by
  have hfirst : (members contents element).flatMap Element.octets
      = write .objectIdentifier contents ++ element.toList.flatMap Element.octets := by
    rw [members, List.flatMap_cons, Element.octets_distinguished]
  rw [toDer, parameterElement_eq h, ok_bind, hcontents, hfirst]
  -- without parameters the second member is empty, with them it is the
  -- element's own octets
  cases element with
  | none => rfl
  | some e =>
      have hoctets := parameterOctets?_of_sequence (h.distinguished e List.mem_cons_self)
        (h.sequence e List.mem_cons_self)
      rw [Option.toList_some, List.flatMap_singleton]
      simp only [hoctets, ok_bind]
      rw [writeSequence, List.flatten_cons, List.flatten_singleton]
      rfl

theorem isDistinguished_of_mem_members {contents parameters : Bytes} {element : Option Element}
    (h : Holds parameters element)
    (hlength : ((members contents element).flatMap Element.octets).length < readableBound) :
    ∀ e ∈ members contents element, e.IsDistinguished := by
  intro e he
  rcases List.mem_cons.1 he with rfl | he
  · have hle := Element.length_le_length_write .objectIdentifier contents
    rw [members, List.flatMap_cons, List.length_append, Element.octets_distinguished] at hlength
    exact Element.isDistinguished (by decide) (by omega)
  · exact h.distinguished e he

private theorem parts?_eq {algorithm : String} {parameters contents : Bytes}
    {element : Option Element}
    (halgorithm : readDotted? contents = some algorithm) (h : Holds parameters element)
    (hlength : ((members contents element).flatMap Element.octets).length < readableBound) :
    parts? (write .sequence ((members contents element).flatMap Element.octets))
      = some (algorithm, parameters) := by
  have hmembers :=
    Element.members_distinguished (isDistinguished_of_mem_members h hlength) .sequence
  rw [parts?, Element.readOnly_write (by decide) hlength, some_bind,
    guard_bind (Element.tag_distinguished _ _), hmembers, some_bind, members]
  simp only
  rw [guard_bind (Element.tag_distinguished _ _), Element.contents_distinguished, halgorithm,
    some_bind, h.octets]
  cases element with
  | none => rfl
  | some e =>
      have hsequence := h.sequence e List.mem_cons_self
      rw [Option.toList_some, List.flatMap_singleton]
      simp only
      rw [guard_bind (mayBeParameters_of_sequence hsequence),
        parameterOctets?_of_sequence (h.distinguished e List.mem_cons_self) hsequence, some_bind]
      rfl

/-- An object identifier and such parameters are encoded, and what they are
encoded as is read again. -/
private theorem exists_toDer {a : Identifier} {arcs : List Nat}
    (halgorithm : a.algorithm = dottedForm arcs)
    (harcs : IsObjectIdentifier arcs) (hbound : ∀ n ∈ arcs, n < Numeral.bound)
    (hparameters : a.parameters = [] ∨ IsSequence a.parameters) :
    ∃ der, a.toDer = .ok der ∧ (a.algorithm.length < lengthBound → ofDer der = .ok a) := by
  obtain ⟨contents, hwrite, hread, hle⟩ := exists_writeDotted?_dottedForm harcs hbound
  obtain ⟨element, hholds, hparameterLength⟩ := exists_holds hparameters
  rw [← halgorithm] at hwrite hread hle
  refine ⟨_, toDer_eq hwrite hholds, ?_⟩
  intro hlength
  have hcontents : contents.length < lengthBound := Nat.lt_of_le_of_lt hle hlength
  -- the two members and their headers fit between what can be stated and
  -- what can be read
  have hroom : ((members contents element).flatMap Element.octets).length < readableBound := by
    have hfirst := Element.length_write_le .objectIdentifier hcontents
    have hbelow : lengthBound + 128 + (lengthBound + 128) ≤ readableBound := by decide
    rw [members, List.flatMap_cons, List.length_append, Element.octets_distinguished,
      ← hholds.octets]
    omega
  rw [ofDer, parts?_eq hread hholds hroom]
  exact a.new_algorithm

end Identifier

-- ====================================================== new identifiers

namespace Scheme

/-- The arcs of a scheme's identifier. -/
def arcs : Scheme → List Nat
  | .tripleDes => [1, 2, 840, 113549, 1, 12, 1, 3]
  | .rc2 => [1, 2, 840, 113549, 1, 12, 1, 6]

private theorem identifier_eq_dottedForm (t : Scheme) : t.identifier = dottedForm t.arcs := by
  cases t <;> decide +kernel

theorem isObjectIdentifier_arcs (t : Scheme) : IsObjectIdentifier t.arcs := by
  cases t <;> exact ⟨by decide, by decide⟩

theorem arcs_lt_bound (t : Scheme) : ∀ n ∈ t.arcs, n < Numeral.bound := by
  cases t <;> decide +kernel

theorem isDotted_identifier (t : Scheme) : isDotted (Text.ofString t.identifier) = true := by
  cases t <;> decide +kernel

end Scheme

namespace Identifier

/-- A new identifier is that of the scheme with the family name, and its
parameters hold the salt and the count that were given or the ones that
stand in for them. -/
theorem forEncryption_eq_ok_iff {settings : Settings.Source} {random : RandomOctets}
    {family : String} {salt : Option Bytes} {iterations : Option Int} {a : Identifier} :
    forEncryption settings random family salt iterations = .ok a
      ↔ ∃ s t p, settings = .ok s ∧ t.name = family ∧ p.salt = salt.getD (random s.saltSize)
          ∧ (p.iterations : Int) = iterations.getD s.defaultIterations
          ∧ a.algorithm = Scheme.identifier t ∧ a.parameters = SchemeParameters.toDer p := by
  have hnew (t : Scheme) (der : Bytes) :
      new t.identifier der = .ok ⟨t.identifier, der, t.isDotted_identifier⟩ :=
    new_algorithm ⟨t.identifier, der, t.isDotted_identifier⟩
  simp only [forEncryption, bind_eq_ok_iff, Scheme.byName_eq_ok_iff,
    SchemeParameters.fromData_eq_ok_iff, hnew]
  constructor
  · rintro ⟨s, hs, t, ht, p, ⟨hsalt, hcount⟩, ha⟩
    cases ha
    exact ⟨s, t, p, hs, ht, hsalt, hcount, rfl, rfl⟩
  · rintro ⟨s, t, p, hs, ht, hsalt, hcount, halgorithm, hparameters⟩
    refine ⟨s, hs, t, ht, p, ⟨hsalt, hcount⟩, ?_⟩
    obtain ⟨algorithm, parameters, dotted⟩ := a
    subst halgorithm hparameters
    rfl

/-- From a new identifier salt and count are read again, if the encoding can
state their lengths. -/
theorem exists_ofDer_of_forEncryption {settings : Settings.Source} {random : RandomOctets}
    {family : String} {salt : Option Bytes} {iterations : Option Int} {a : Identifier}
    (h : forEncryption settings random family salt iterations = .ok a) :
    ∃ s t p, settings = .ok s ∧ t.name = family ∧ p.salt = salt.getD (random s.saltSize)
      ∧ (p.iterations : Int) = iterations.getD s.defaultIterations
      ∧ Scheme.identifier t = a.algorithm
      ∧ (SchemeParameters.Statable p.salt p.iterations →
          SchemeParameters.ofDer a.parameters = .ok p) := by
  obtain ⟨s, t, p, hs, ht, hsalt, hcount, halgorithm, hparameters⟩ := forEncryption_eq_ok_iff.1 h
  refine ⟨s, t, p, hs, ht, hsalt, hcount, halgorithm.symm, fun hstatable => ?_⟩
  rw [hparameters]
  exact SchemeParameters.ofDer_of_statable hstatable

/-- Under settings and for a scheme every count from one on makes an identifier,
however large: the maximum is looked at only when a key is derived. -/
theorem exists_forEncryption (s : Settings) (random : RandomOctets) (t : Scheme)
    (salt : Option Bytes) {iterations : Option Int}
    (hpos : 1 ≤ iterations.getD s.defaultIterations) :
    ∃ a, forEncryption (.ok s) random t.name salt iterations = .ok a := by
  have hcount : ((iterations.getD s.defaultIterations).toNat : Int)
      = iterations.getD s.defaultIterations := Int.toNat_of_nonneg (by omega)
  refine ⟨⟨t.identifier, SchemeParameters.toDer ⟨salt.getD (random s.saltSize),
    (iterations.getD s.defaultIterations).toNat, by omega⟩, t.isDotted_identifier⟩, ?_⟩
  exact forEncryption_eq_ok_iff.2 ⟨s, t, _, rfl, rfl, rfl, hcount, rfl, rfl⟩

/-- And only a count below one keeps an identifier from being made, with a given
scheme under settings that can be read. -/
theorem forEncryption_eq_error {s : Settings} {random : RandomOctets} {t : Scheme}
    {salt : Option Bytes} {iterations : Option Int} {e : Error}
    (h : forEncryption (.ok s) random t.name salt iterations = .error e) :
    e = .format .schemeCount ∧ iterations.getD s.defaultIterations < 1 := by
  have hbelow : iterations.getD s.defaultIterations < 1 := by
    refine Int.not_le.1 fun hpos => ?_
    obtain ⟨a, ha⟩ := exists_forEncryption s random t salt hpos
    rw [ha] at h
    cases h
  refine ⟨?_, hbelow⟩
  rw [forEncryption, ok_bind, Scheme.byName_name, ok_bind] at h
  simp only at h
  rw [SchemeParameters.fromData_eq_error_iff.2 hbelow] at h
  exact (Except.error.inj h).symm

/-- The identifier of a scheme is read again with its parameters, and so
are salt and count. -/
theorem exists_toDer_of_scheme {a : Identifier} {t : Scheme} {p : SchemeParameters}
    (halgorithm : a.algorithm = t.identifier) (hparameters : a.parameters = p.toDer)
    (hlength : a.parameters.length < lengthBound) :
    (∃ der, a.toDer = .ok der ∧ ofDer der = .ok a) ∧ a.scheme = .ok t
      ∧ SchemeParameters.ofDer a.parameters = .ok p := by
  rw [hparameters] at hlength
  have hsequence : IsSequence a.parameters := by
    rw [hparameters, p.toDer_eq_encoded, SchemeParameters.encoded_eq]
    rw [p.toDer_eq_encoded] at hlength
    exact isSequence_iff.2 ⟨_, SchemeParameters.length_contents_lt hlength, rfl⟩
  have hshort : a.algorithm.length < lengthBound := by
    rw [halgorithm]
    cases t <;> decide +kernel
  obtain ⟨der, hder, hread⟩ := exists_toDer (halgorithm.trans t.identifier_eq_dottedForm)
    t.isObjectIdentifier_arcs t.arcs_lt_bound (Or.inr hsequence)
  refine ⟨⟨der, hder, hread hshort⟩, ?_, ?_⟩
  · rw [scheme, halgorithm, Scheme.resolve_identifier]
  · rw [hparameters]
    exact SchemeParameters.ofDer_of_length_lt (Nat.lt_trans hlength lengthBound_lt_readableBound)

/-- Any element that is a sequence is put in as octets. -/
private theorem exists_parameterOctets?_of_sequence {e : Element} (htag : e.tag = .sequence) :
    ∃ octets, parameterOctets? e = some octets := by
  rw [parameterOctets?]
  split
  · exact ⟨_, rfl⟩
  · rw [if_pos (by rw [htag]; rfl)]
    exact ⟨_, rfl⟩

/-- The identifier of a scheme is encoded if salt and count can be read from it,
in whatever form its parameters are: they are one sequence then, and a
sequence can always be put in. -/
theorem exists_toDer_of_ofDer {a : Identifier} {t : Scheme} {p : SchemeParameters}
    (halgorithm : a.algorithm = t.identifier) (hp : SchemeParameters.ofDer a.parameters = .ok p) :
    ∃ der, a.toDer = .ok der := by
  obtain ⟨e, hread, htag⟩ : ∃ e, Element.readOnly a.parameters = some e ∧ e.tag = .sequence := by
    rw [SchemeParameters.ofDer] at hp
    cases hparts : SchemeParameters.parts? a.parameters with
    | none =>
        rw [hparts] at hp
        cases hp
    | some parts =>
        obtain ⟨outer, -, -, -, hread, htag, -⟩ := SchemeParameters.parts?_eq_some_iff.1 hparts
        exact ⟨outer, hread, htag⟩
  obtain ⟨octets, hoctets⟩ := exists_parameterOctets?_of_sequence htag
  obtain ⟨contents, hwrite, -⟩ :=
    exists_writeDotted?_dottedForm t.isObjectIdentifier_arcs t.arcs_lt_bound
  rw [← t.identifier_eq_dottedForm, ← halgorithm] at hwrite
  -- empty parameters would be encoded as well, though nothing can be read
  -- from them
  have helement : ∃ element, a.parameterElement = .ok element
      ∧ ∀ e', element = some e' → e' = e := by
    rw [parameterElement, hread]
    simp only [mayBeParameters_of_sequence htag]
    split
    · refine ⟨none, rfl, ?_⟩
      intro e' h
      cases h
    · exact ⟨some e, rfl, fun e' h => (Option.some.inj h).symm⟩
  obtain ⟨element, helement, hsame⟩ := helement
  rw [toDer, helement, ok_bind, hwrite]
  cases element with
  | none => exact ⟨_, rfl⟩
  | some e' =>
      simp only [hsame e' rfl, hoctets]
      exact ⟨_, rfl⟩

-- ======================================================= both together

/-- Identifiers survive their encoded form. Whatever object identifier is
given in dotted form, with arcs that can be read as numerals, and with no
parameters or one sequence, the identifier is taken, encoded, and read again
as it was. A new identifier for encryption is such a one: from what is read
again follow the family, the salt and the count that it was made for; and
every count from one on makes one. Of the dotted form, and of encoded salt
and count, it is asked that the encoding can state their lengths. -/
theorem ofDer_toDer :
    (∀ arcs parameters, IsObjectIdentifier arcs → (∀ n ∈ arcs, n < Numeral.bound) →
        parameters = [] ∨ IsSequence parameters →
        ∃ a der, new (dottedForm arcs) parameters = .ok a
          ∧ a.algorithm = dottedForm arcs ∧ a.parameters = parameters
          ∧ a.toDer = .ok der
          ∧ ((dottedForm arcs).length < lengthBound → ofDer der = .ok a))
      ∧ (∀ settings random family salt iterations a,
          forEncryption settings random family salt iterations = .ok a →
          a.parameters.length < lengthBound →
          ∃ s t p der, settings = .ok s ∧ a.toDer = .ok der ∧ ofDer der = .ok a
            ∧ a.scheme = .ok t ∧ t.name = family
            ∧ SchemeParameters.ofDer a.parameters = .ok p
            ∧ p.salt = salt.getD (random s.saltSize)
            ∧ (p.iterations : Int) = iterations.getD s.defaultIterations)
      ∧ (∀ (s : Settings) random (t : Scheme) salt iterations,
          1 ≤ iterations.getD s.defaultIterations →
          ∃ a, forEncryption (.ok s) random t.name salt iterations = .ok a) := by
  refine ⟨?_, ?_, ?_⟩
  · intro arcs parameters harcs hbound hparameters
    have hdotted : isDotted (Text.ofString (dottedForm arcs)) = true := by
      match arcs, harcs with
      | first :: second :: rest, _ => exact isDotted_dottedForm first second rest
    obtain ⟨der, hder, hread⟩ := exists_toDer (a := ⟨dottedForm arcs, parameters, hdotted⟩) rfl
      harcs hbound hparameters
    exact ⟨_, der, new_algorithm ⟨dottedForm arcs, parameters, hdotted⟩, rfl, rfl, hder, hread⟩
  · intro settings random family salt iterations a hnew hlength
    obtain ⟨s, t, p, hs, ht, hsalt, hcount, halgorithm, hparameters⟩ :=
      forEncryption_eq_ok_iff.1 hnew
    obtain ⟨⟨der, hder, hread⟩, hscheme, hdecoded⟩ :=
      exists_toDer_of_scheme halgorithm hparameters hlength
    exact ⟨s, t, p, der, hs, hder, hread, hscheme, ht, hdecoded, hsalt, hcount⟩
  · intro s random t salt iterations hpos
    exact exists_forEncryption s random t salt hpos

/-- Arcs whose first two make a subidentifier of two octets, with an empty
sequence for parameters; and a new identifier without a salt. -/
theorem ofDer_toDer_instances :
    (∃ a der, new (dottedForm [2, 999, 3]) [0x30, 0x00] = .ok a
        ∧ a.toDer = .ok der ∧ ofDer der = .ok a)
      ∧ ∃ a t p der,
          forEncryption (.ok Settings.standard) (fun n => List.replicate n 0)
            "pbeWithSHAAnd40BitRC2-CBC" (some []) (some 5) = .ok a
          ∧ a.toDer = .ok der ∧ ofDer der = .ok a ∧ a.scheme = .ok t
          ∧ t.name = "pbeWithSHAAnd40BitRC2-CBC"
          ∧ SchemeParameters.ofDer a.parameters = .ok p
          ∧ p.salt = [] ∧ (p.iterations : Int) = 5 := by
  obtain ⟨hgiven, hnew, -⟩ := ofDer_toDer
  constructor
  · have hsequence : IsSequence [0x30, 0x00] := ⟨[0x00], [], .short (by decide), rfl⟩
    obtain ⟨a, der, ha, -, -, hder, hread⟩ := hgiven [2, 999, 3] [0x30, 0x00]
      ⟨by decide, by decide⟩ (by decide +kernel) (Or.inr hsequence)
    exact ⟨a, der, ha, hder, hread (by decide +kernel)⟩
  · have hmade : forEncryption (.ok Settings.standard) (fun n => List.replicate n 0)
        "pbeWithSHAAnd40BitRC2-CBC" (some []) (some 5)
        = .ok ⟨"1.2.840.113549.1.12.1.6", [0x30, 0x05, 0x04, 0x00, 0x02, 0x01, 0x05],
            by decide +kernel⟩ :=
      forEncryption_eq_ok_iff.2 ⟨Settings.standard, .rc2, ⟨[], 5, by decide⟩, rfl, rfl, rfl, rfl,
        rfl, by decide +kernel⟩
    obtain ⟨s, t, p, der, -, hder, hread, hscheme, ht, hp, hsalt, hcount⟩ :=
      hnew _ _ _ _ _ _ hmade (by decide)
    exact ⟨_, t, p, der, hmade, hder, hread, hscheme, ht, hp, hsalt, hcount⟩

end Identifier

end Pkcs12
