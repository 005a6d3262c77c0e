/-
Object identifiers survive both of their translations: arcs are read from the
dotted form, and from the octets that they are written in.

# Numbers in base 128

A subidentifier is written with the continuation bit set in all octets but the
last. Reading carries what has been read so far; so the law for the octets in
front of the last (`subidentifiers_base128Front`) is about any number that is
carried into what follows, by strong induction along the divisions. Numbers
one after the other are then read one by one (`subidentifiers_flatMap`).

# Arcs

The first subidentifier holds two arcs. They can be told apart because the
first arc has only three values and leaves the second less than forty where
it is below two: `IsObjectIdentifier`. For these, joining and splitting the
first subidentifier are inverse to each other.

# Dotted form

The parts between the dots are the numerals of the arcs
(`dotParts_dottedForm`), since a numeral has no dot in it, and numerals below
the bound are read back. A dotted form has no blanks, which is what an
identifier strips.

# Sizes

That an encoded object identifier can be stated is asked of the length of its
dotted form, which a caller can see. An octet holds more of a number than a
digit does, and the first subidentifier, of two arcs, takes at most one octet
more; the dot between the two arcs makes up for that
(`length_flatMap_writeBase128_le`, `length_writeBase128_first_le`).
-/
import Pkcs12.Der.ObjectIdentifier
import Pkcs12.Proofs.Text.Numeral

namespace Pkcs12.Der

open Text (numeral)

-- ============================================================ base 128

/-- A number below `128 ^ v` has at most `v` octets in front of the last. By
induction on the number of octets, as for base 256. -/
private theorem length_base128Front_le_iff (n v : Nat) :
    (base128Front n).length ≤ v ↔ n < 128 ^ v := by
  induction v generalizing n with
  | zero =>
      unfold base128Front
      split
      next hzero => simp [hzero]
      next hne =>
        rw [List.length_append, List.length_singleton]
        omega
  | succ v ih =>
      unfold base128Front
      split
      next hzero =>
        have hpos : 0 < 128 ^ (v + 1) := Nat.pow_pos (by decide)
        rw [List.length_nil]
        omega
      next hne =>
        rw [List.length_append, List.length_singleton, Nat.add_le_add_iff_right, ih,
          Nat.div_lt_iff_lt_mul (by decide), Nat.pow_succ]

/-- A number below `128 ^ v` is written in at most `v` octets. -/
private theorem length_writeBase128_le {n v : Nat} (hv : 0 < v) (h : n < 128 ^ v) :
    (writeBase128 n).length ≤ v := by
  obtain ⟨w, rfl⟩ : ∃ w, v = w + 1 := ⟨v - 1, by omega⟩
  rw [writeBase128, List.length_append, List.length_singleton, Nat.add_le_add_iff_right,
    length_base128Front_le_iff, Nat.div_lt_iff_lt_mul (by decide), ← Nat.pow_succ]
  exact h

/-- The octets in front are carried into the octet behind them: having read them
is having the number in hand. Strong induction, since the octets are made by
division from the end. -/
private theorem subidentifiers_base128Front (n : Nat) (rest : Bytes) :
    subidentifiers 0 (base128Front n ++ rest) = subidentifiers n rest := by
  induction n using Nat.strongRecOn generalizing rest with
  | ind n ih =>
      unfold base128Front
      split
      next hzero => rw [hzero, List.nil_append]
      next hne =>
        have hoctet : (UInt8.ofNat (128 + n % 128)).toNat = 128 + n % 128 :=
          UInt8.toNat_ofNat_of_lt' (show _ < 256 by omega)
        rw [List.append_assoc, List.singleton_append, ih (n / 128) (by omega), subidentifiers,
          hoctet, if_neg (by omega), Nat.add_sub_cancel_left, Nat.div_add_mod]

private theorem subidentifiers_writeBase128 (n : Nat) (rest : Bytes) :
    subidentifiers 0 (writeBase128 n ++ rest) = n :: subidentifiers 0 rest := by
  have hoctet : (UInt8.ofNat (n % 128)).toNat = n % 128 :=
    UInt8.toNat_ofNat_of_lt' (show _ < 256 by omega)
  rw [writeBase128, List.append_assoc, List.singleton_append, subidentifiers_base128Front,
    subidentifiers, hoctet, if_pos (by omega), Nat.div_add_mod]

/-- Numbers that are written one after the other are read one by one. -/
theorem subidentifiers_flatMap (numbers : List Nat) :
    subidentifiers 0 (numbers.flatMap writeBase128) = numbers := by
  induction numbers with
  | nil => rfl
  | cons n numbers ih => rw [List.flatMap_cons, subidentifiers_writeBase128, ih]

-- ================================================================ arcs

/-- What object identifiers there are: the root has three arcs, and the first two
of these leave the second arc forty values. -/
def IsObjectIdentifier : List Nat → Prop
  | first :: second :: _ => first ≤ 2 ∧ (first < 2 → second < 40)
  | _ => False

/-- Every object identifier has subidentifiers. -/
theorem subidentifiersOfArcs?_of_isObjectIdentifier {first second : Nat} {rest : List Nat}
    (h : IsObjectIdentifier (first :: second :: rest)) :
    subidentifiersOfArcs? (first :: second :: rest) = some ((40 * first + second) :: rest) := by
  obtain ⟨hfirst, hsecond⟩ := h
  refine if_neg ?_
  rintro (hlarge | ⟨hbelow, hlarge⟩)
  · omega
  · have := hsecond hbelow
    omega

/-- The two arcs of the first subidentifier are told apart, one case per value of
the first arc. -/
theorem arcsOfSubidentifiers_of_isObjectIdentifier {first second : Nat} {rest : List Nat}
    (h : IsObjectIdentifier (first :: second :: rest)) :
    arcsOfSubidentifiers ((40 * first + second) :: rest) = first :: second :: rest := by
  obtain ⟨hfirst, hsecond⟩ := h
  rw [arcsOfSubidentifiers]
  obtain rfl | rfl | rfl : first = 0 ∨ first = 1 ∨ first = 2 := by omega
  · have := hsecond (by decide)
    rw [if_neg (by omega), if_neg (by omega), Nat.mul_zero, Nat.zero_add]
  · have := hsecond (by decide)
    rw [if_neg (by omega), if_pos (by omega), Nat.mul_one, Nat.add_sub_cancel_left]
  · rw [if_pos (by omega), Nat.add_sub_cancel_left]

-- ========================================================= dotted form

/-- The dotted form of arcs: their numerals with dots between them. -/
def dottedForm (arcs : List Nat) : String :=
  ".".intercalate (arcs.map toString)

def dot : CodePoint := CodePoint.ofChar '.'

private theorem ofString_dottedForm_singleton (n : Nat) :
    Text.ofString (dottedForm [n]) = numeral n := by
  rw [dottedForm, List.map_singleton, String.intercalate_singleton, numeral]

private theorem ofString_dottedForm_cons_cons (n m : Nat) (arcs : List Nat) :
    Text.ofString (dottedForm (n :: m :: arcs))
      = numeral n ++ dot :: Text.ofString (dottedForm (m :: arcs)) := by
  have happend (s t : String) : Text.ofString (s ++ t) = Text.ofString s ++ Text.ofString t := by
    rw [Text.ofString, String.toList_append, List.map_append]
    rfl
  rw [dottedForm, List.map_cons, List.map_cons, String.intercalate_cons_cons, ← List.map_cons,
    happend, happend, List.append_assoc]
  rfl

/-- Text without a dot in it goes to the first part, in front of what the rest
puts there. -/
private theorem dotParts_append {t rest part : Text} {parts : List Text}
    (ht : ∀ c ∈ t, c.isChar '.' = false) (hrest : dotParts rest = part :: parts) :
    dotParts (t ++ rest) = (t ++ part) :: parts := by
  induction t with
  | nil => exact hrest
  | cons c t ih =>
      rw [List.cons_append, dotParts, if_neg (by simp [ht c List.mem_cons_self]),
        ih fun c hc => ht c (List.mem_cons_of_mem _ hc)]
      rfl

/-- The parts of a dotted form are the numerals of the arcs. By induction on the
arcs behind the first, each of which begins with a dot. -/
private theorem dotParts_dottedForm (n : Nat) (arcs : List Nat) :
    dotParts (Text.ofString (dottedForm (n :: arcs))) = (n :: arcs).map numeral := by
  have hnumeral (n : Nat) : ∀ c ∈ numeral n, c.isChar '.' = false := by
    intro c hc
    obtain ⟨d, hd, rfl⟩ := Text.exists_digit_of_mem_numeral hc
    exact (CodePoint.isChar_digit d hd).2
  induction arcs generalizing n with
  | nil =>
      have hparts : dotParts (numeral n ++ []) = [numeral n ++ []] :=
        dotParts_append (hnumeral n) rfl
      rw [List.append_nil] at hparts
      rw [ofString_dottedForm_singleton, hparts]
      rfl
  | cons m arcs ih =>
      have hdot (rest : Text) : dotParts (dot :: rest) = [] :: dotParts rest := by
        rw [dotParts, if_pos (by decide)]
      rw [ofString_dottedForm_cons_cons, dotParts_append (hnumeral n) (hdot _), ih, List.append_nil]
      rfl

/-- Arcs are read from their dotted form. -/
theorem arcsOfDotted?_dottedForm {n : Nat} {arcs : List Nat}
    (h : ∀ m ∈ n :: arcs, m < Numeral.bound) :
    arcsOfDotted? (Text.ofString (dottedForm (n :: arcs))) = some (n :: arcs) := by
  have hall (ns : List Nat) (h : ∀ m ∈ ns, m < Numeral.bound) :
      (ns.mapM fun m => (Text.toNat (numeral m)).toOption) = some ns := by
    induction ns with
    | nil => rfl
    | cons m ns ih =>
        rw [List.mapM_cons, Text.toNat_numeral (h m List.mem_cons_self),
          ih fun k hk => h k (List.mem_cons_of_mem _ hk)]
        rfl
  rw [arcsOfDotted?, dotParts_dottedForm, List.mapM_map]
  exact hall _ h

/-- Two arcs are enough for a dotted form. -/
theorem isDotted_dottedForm (first second : Nat) (rest : List Nat) :
    isDotted (Text.ofString (dottedForm (first :: second :: rest))) = true := by
  have hdigits (n : Nat) : isDigits (numeral n) = true := by
    rw [isDigits, Bool.and_eq_true]
    constructor
    · have hpos := Text.length_numeral_pos n
      cases hn : numeral n with
      | nil => simp [hn] at hpos
      | cons c t => rfl
    · rw [List.all_eq_true]
      exact fun c hc => Text.isSome_decimalValue?_of_mem_numeral hc
  simp [isDotted, dotParts_dottedForm, hdigits]

/-- What is not a dot stands in one of the parts, so a property of all parts is
one of all characters but the dots. -/
private theorem isChar_or_mem_dotParts {t : Text} {c : CodePoint} (hc : c ∈ t) :
    c.isChar '.' = true ∨ ∃ part ∈ dotParts t, c ∈ part := by
  induction t with
  | nil => simp at hc
  | cons x t ih =>
      rw [dotParts]
      rcases List.mem_cons.1 hc with rfl | hc
      · by_cases hdot : c.isChar '.' = true
        · exact Or.inl hdot
        · rw [if_neg hdot]
          split <;> exact Or.inr ⟨_, List.mem_cons_self, List.mem_cons_self⟩
      · obtain hdot | ⟨part, hpart, hin⟩ := ih hc
        · exact Or.inl hdot
        · right
          split
          · exact ⟨part, List.mem_cons_of_mem _ hpart, hin⟩
          · split
            next hnil => simp [hnil] at hpart
            next first parts hparts =>
              rw [hparts] at hpart
              rcases List.mem_cons.1 hpart with rfl | hpart
              · exact ⟨_, List.mem_cons_self, List.mem_cons_of_mem _ hin⟩
              · exact ⟨part, List.mem_cons_of_mem _ hpart, hin⟩

/-- A dotted form has digits and dots in it, so nothing that is blank. The digits
may be of any script here: a dotted form as it is given need not be the one
that is written. -/
theorem isBlank_of_isDotted {t : Text} (h : isDotted t = true) {c : CodePoint} (hc : c ∈ t) :
    c.isBlank = false := by
  obtain hdot | ⟨part, hpart, hin⟩ := isChar_or_mem_dotParts hc
  · have hval : c = dot := by
      apply Fin.ext
      exact eq_of_beq hdot
    rw [hval]
    decide
  · rw [isDotted, Bool.and_eq_true, List.all_eq_true] at h
    have hdigits := h.2 part hpart
    rw [isDigits, Bool.and_eq_true, List.all_eq_true] at hdigits
    exact CodePoint.isBlank_of_decimalValue? (hdigits.2 c hin)

-- ====================================================== both together

/-- An octet holds more of a number than a digit does. -/
private theorem length_writeBase128_le_numeral (n : Nat) :
    (writeBase128 n).length ≤ (numeral n).length := by
  have hpos := Text.length_numeral_pos n
  refine length_writeBase128_le hpos (Nat.lt_of_lt_of_le ?_ (Nat.pow_le_pow_left (n := 10) ?_ _))
  · exact (Text.length_numeral_le_iff hpos).1 (Nat.le_refl _)
  · decide

/-- The first subidentifier takes at most one octet more than the second
arc has digits. -/
private theorem length_writeBase128_first_le {first : Nat} (h : first ≤ 2) (second : Nat) :
    (writeBase128 (40 * first + second)).length ≤ (numeral second).length + 1 := by
  have hpos := Text.length_numeral_pos second
  have hsecond : second < 10 ^ (numeral second).length :=
    (Text.length_numeral_le_iff hpos).1 (Nat.le_refl _)
  have hpow : 10 ^ (numeral second).length ≤ 128 ^ (numeral second).length :=
    Nat.pow_le_pow_left (by decide) _
  apply length_writeBase128_le (Nat.succ_pos _)
  rw [Nat.pow_succ]
  omega

/-- The octets of the arcs after the first one fit where their digits and
the dots between them stand. -/
private theorem length_flatMap_writeBase128_le (n : Nat) (arcs : List Nat) :
    (arcs.flatMap writeBase128).length + (numeral n).length
      ≤ (Text.ofString (dottedForm (n :: arcs))).length := by
  induction arcs generalizing n with
  | nil =>
      refine Nat.le_of_eq ?_
      rw [ofString_dottedForm_singleton, List.flatMap_nil, List.length_nil, Nat.zero_add]
  | cons m arcs ih =>
      have hm := length_writeBase128_le_numeral m
      have harcs := ih m
      rw [ofString_dottedForm_cons_cons, List.flatMap_cons, List.length_append, List.length_append,
        List.length_cons]
      omega

/-- An object identifier is written, and read again as the same dotted form; it
takes no more octets than digits and dots. -/
theorem exists_writeDotted?_dottedForm {arcs : List Nat} (h : IsObjectIdentifier arcs)
    (hbound : ∀ n ∈ arcs, n < Numeral.bound) :
    ∃ contents, writeDotted? (Text.ofString (dottedForm arcs)) = some contents
      ∧ readDotted? contents = some (dottedForm arcs)
      ∧ contents.length ≤ (dottedForm arcs).length := by
  obtain ⟨first, second, rest, rfl⟩ : ∃ first second rest, arcs = first :: second :: rest := by
    match arcs, h with
    | first :: second :: rest, _ => exact ⟨first, second, rest, rfl⟩
  refine ⟨((40 * first + second) :: rest).flatMap writeBase128, ?_, ?_, ?_⟩
  · -- writing: numerals to arcs, arcs to subidentifiers
    rw [writeDotted?, arcsOfDotted?_dottedForm hbound, Option.bind_eq_bind, Option.bind_some,
      subidentifiersOfArcs?_of_isObjectIdentifier h]
    rfl
  · -- reading: the same steps back, and the numerals can be written because
    -- the arcs are below the bound
    have hall : (first :: second :: rest).all (· < Numeral.bound) = true := by
      rw [List.all_eq_true]
      exact fun n hn => decide_eq_true (hbound n hn)
    rw [readDotted?, subidentifiers_flatMap, arcsOfSubidentifiers_of_isObjectIdentifier h,
      dottedOfArcs?, if_pos hall, dottedForm]
  · -- the octet that the first subidentifier may take more is paid for by the
    -- dot behind the first arc
    have hfirst := length_writeBase128_first_le h.1 second
    have hrest := length_flatMap_writeBase128_le second rest
    have hpos := Text.length_numeral_pos first
    rw [← Text.length_ofString, ofString_dottedForm_cons_cons, List.flatMap_cons,
      List.length_append, List.length_append, List.length_cons]
    omega

end Pkcs12.Der
