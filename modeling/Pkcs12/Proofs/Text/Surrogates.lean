/-
Texts without an encoded form. Both encodings refuse a text for its first run
of surrogates: UTF-8 reports where the run begins and ends, UTF-16 its first
point alone. So whether a text is refused, and with which report, can be read
off the text.

# The first run

`FirstRun` describes it by the parts of the text: earlier points without a
surrogate, the first surrogate, the others that follow it without a gap, and
a rest that does not begin with one. The encodings find it by dropping and
taking, and `firstRun_iff` says that the two descriptions agree: each part is
the longest one there can be.

# The two encodings

UTF-8 drops the points in front and looks at what is left. The password
encoding goes through the text with a counter and stops at the first
surrogate, after it has looked for points beyond the basic plane; its
recursion is turned into the same dropping by `firstSurrogate?_eq`, where the
counter has become a difference of lengths. From there both refusals are
stated in the same words.
-/
import Mathlib.Data.List.TakeWhile
import Pkcs12.Password
import Pkcs12.Text.Utf8

namespace Pkcs12

namespace Text

/-- The first surrogates of a text are a run that begins with `c` at `first` and
ends at `last`, both counted in points. -/
def FirstRun (t : Text) (c : CodePoint) (first last : Nat) : Prop :=
  ∃ earlier run later, t = earlier ++ c :: (run ++ later)
    ∧ (∀ x ∈ earlier, x.isSurrogate = false) ∧ c.isSurrogate = true
    ∧ (∀ x ∈ run, x.isSurrogate = true) ∧ (∀ x, later.head? = some x → x.isSurrogate = false)
    ∧ first = earlier.length ∧ last = earlier.length + run.length

variable {t : Text} {c : CodePoint} {first last : Nat}

/-- The parts of a first run are found by dropping and taking, since each ends where
the next one begins. -/
private theorem FirstRun.exists_dropWhile (h : FirstRun t c first last) :
    ∃ rest, t.dropWhile (!·.isSurrogate) = c :: rest
      ∧ first = t.length - (rest.length + 1)
      ∧ last = first + (rest.takeWhile CodePoint.isSurrogate).length := by
  obtain ⟨earlier, run, later, rfl, hearlier, hc, hrun, hlater, rfl, rfl⟩ := h
  have hdrop : (earlier ++ c :: (run ++ later)).dropWhile (!·.isSurrogate)
      = c :: (run ++ later) := by
    rw [List.dropWhile_append_of_pos fun x hx => by rw [hearlier x hx]; rfl,
      List.dropWhile_cons_of_neg (by rw [hc]; decide)]
  have htake : (run ++ later).takeWhile CodePoint.isSurrogate = run := by
    rw [List.takeWhile_append_of_pos hrun]
    cases later with
    | nil => rw [List.takeWhile_nil, List.append_nil]
    | cons x later =>
        rw [List.takeWhile_cons_of_neg (by rw [hlater x rfl]; decide), List.append_nil]
  refine ⟨run ++ later, hdrop, ?_, ?_⟩
  · simp only [List.length_append, List.length_cons]
    omega
  · rw [htake]

/-- And what is dropped and taken are such parts. -/
private theorem firstRun_of_dropWhile {rest : Text}
    (hdrop : t.dropWhile (!·.isSurrogate) = c :: rest) :
    FirstRun t c (t.length - (rest.length + 1))
      (t.length - (rest.length + 1) + (rest.takeWhile CodePoint.isSurrogate).length) := by
  have hsplit := List.takeWhile_append_dropWhile (p := (!·.isSurrogate)) (l := t)
  have hrest := List.takeWhile_append_dropWhile (p := CodePoint.isSurrogate) (l := rest)
  have hlength := congrArg List.length hsplit
  rw [hdrop] at hsplit
  rw [List.length_append, hdrop, List.length_cons] at hlength
  refine ⟨t.takeWhile (!·.isSurrogate), rest.takeWhile CodePoint.isSurrogate,
    rest.dropWhile CodePoint.isSurrogate, ?_, ?_, ?_, ?_, ?_, ?_, ?_⟩
  · rw [hrest, hsplit]
  · intro x hx
    simpa using List.mem_takeWhile_imp hx
  · have hfirst := List.head?_dropWhile_not (!·.isSurrogate) t
    rw [hdrop] at hfirst
    simpa using hfirst
  · exact fun x hx => List.mem_takeWhile_imp hx
  · intro x hx
    have hbehind := List.head?_dropWhile_not CodePoint.isSurrogate rest
    rw [hx] at hbehind
    exact hbehind
  · omega
  · omega

/-- The first run begins where the points without an exception end, and goes on
as far as it can. -/
theorem firstRun_iff :
    FirstRun t c first last ↔ ∃ rest, t.dropWhile (!·.isSurrogate) = c :: rest
      ∧ first = t.length - (rest.length + 1)
      ∧ last = first + (rest.takeWhile CodePoint.isSurrogate).length := by
  constructor
  · exact FirstRun.exists_dropWhile
  · rintro ⟨rest, hdrop, rfl, rfl⟩
    exact firstRun_of_dropWhile hdrop

end Text

open Text

/-- UTF-8 refuses exactly the texts with surrogates, for their first run. -/
theorem Utf8.encode_eq_error_iff {t : Text} {place : Unencodable} :
    encode t = .error place
      ↔ ∃ c first last, FirstRun t c first last ∧ place = ⟨.utf8, c, first, last⟩ := by
  simp only [firstRun_iff]
  rw [encode]
  split
  next hdrop =>
    constructor
    · intro h
      cases h
    · rintro ⟨c, first, last, ⟨rest, hrest, -⟩, -⟩
      rw [hdrop] at hrest
      cases hrest
  next c rest hdrop =>
    constructor
    · intro h
      exact ⟨c, _, _, ⟨rest, hdrop, rfl, rfl⟩, (Except.error.inj h).symm⟩
    · rintro ⟨c', first, last, ⟨rest', hrest, rfl, rfl⟩, rfl⟩
      rw [hdrop] at hrest
      cases hrest
      rfl

namespace Password

/-- The first surrogate is where the first run begins. The counter `i` is the
position that the recursion has reached, and generalised in the induction. -/
theorem firstSurrogate?_eq (i : Nat) (t : Text) :
    firstSurrogate? i t = (t.dropWhile (!·.isSurrogate)).head?.map fun c =>
      (c, i + (t.length - (t.dropWhile (!·.isSurrogate)).length)) := by
  induction t generalizing i with
  | nil => rfl
  | cons c rest ih =>
      rw [firstSurrogate?]
      cases hc : c.isSurrogate with
      | true =>
          rw [if_pos rfl, List.dropWhile_cons_of_neg (by rw [hc]; decide), Nat.sub_self]
          rfl
      | false =>
          have hle := List.length_dropWhile_le (!·.isSurrogate) rest
          rw [if_neg Bool.false_ne_true, List.dropWhile_cons_of_pos (by rw [hc]; rfl), ih,
            List.length_cons, Nat.succ_sub hle, Nat.add_right_comm, Nat.add_assoc]

/-- Passwords are refused for a character beyond the basic multilingual plane, and
otherwise for their first surrogate. A text with both is refused for the
first reason wherever the surrogate stands. -/
theorem encode_eq_error_iff {t : Text} {e : Error} :
    encode t = .error e
      ↔ ((∃ x ∈ t, 0xFFFF < x.val) ∧ e = .format .astralPassword)
        ∨ (∀ x ∈ t, x.val ≤ 0xFFFF) ∧ ∃ c first last, FirstRun t c first last
          ∧ e = .misuse (.unencodable ⟨.utf16BigEndian, c, first, first⟩) := by
  simp only [firstRun_iff]
  rw [encode]
  by_cases hastral : ∃ x ∈ t, 0xFFFF < x.val
  · rw [if_pos (by simpa using hastral)]
    constructor
    · intro h
      exact Or.inl ⟨hastral, (Except.error.inj h).symm⟩
    · rintro (⟨-, rfl⟩ | ⟨hplane, -⟩)
      · rfl
      · obtain ⟨x, hx, habove⟩ := hastral
        exact absurd (hplane x hx) (Nat.not_le.2 habove)
  · have hplane : ∀ x ∈ t, x.val ≤ 0xFFFF := fun x hx =>
      Nat.not_lt.1 fun habove => hastral ⟨x, hx, habove⟩
    rw [if_neg (by simpa using hplane), firstSurrogate?_eq, Nat.zero_add]
    cases hdrop : t.dropWhile (!·.isSurrogate) with
    | nil =>
        constructor
        · intro h
          cases h
        · rintro (⟨habove, -⟩ | ⟨-, c, first, last, ⟨rest, hrest, -⟩, -⟩)
          · exact absurd habove hastral
          · cases hrest
    | cons c rest =>
        constructor
        · intro h
          exact Or.inr ⟨hplane, c, _, _, ⟨rest, rfl, rfl, rfl⟩, (Except.error.inj h).symm⟩
        · rintro (⟨habove, -⟩ | ⟨-, c', first, last, ⟨rest', hrest, rfl, rfl⟩, rfl⟩)
          · exact absurd habove hastral
          · cases hrest
            rfl

end Password

end Pkcs12
