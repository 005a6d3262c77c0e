/-
Paths of reports: a report stays in the directory that was given for it,
whatever its name.

# One component

The path of a report is the path of its directory with one component more. The
label that is made of the name keeps letters, digits, hyphens and underscores
and replaces everything else, so it holds no slash, and the file name is one
component; it holds no dot either, and the time stamp and the ending behind
it make the file name longer than the two components that lead elsewhere
(`fileName_ne_of_length_le`). Names and directories are texts, whose points
may be surrogates; nothing here depends on whether a text can be encoded.

# Paths and their texts

`IsRead` describes the paths that texts denote: at most two slashes in front,
and components that say something and hold no slash. Two laws are needed of
them. Joined components are found again between their slashes
(`ofText_intercalate`), because none of them is empty or holds a slash; and
every such path is read off its own text again (`IsRead.ofText_toText`), the
empty path included, which is written as a dot. The path of a report is of
this kind, so what is said of its components can be read off its text as
well.

# Time stamps

A stamp is digits and two letters. A year has as many digits as it takes, so
the length of a stamp is not fixed, and the argument about file names uses
only the ending.
-/
import Pkcs12.Report.Path

namespace Pkcs12

-- ================================================================ pieces

namespace Path

/-- What stands between slashes holds none. By induction on the text, where a
point that is no slash goes to the first piece of the rest. -/
private theorem not_mem_of_mem_splitOn {cs piece : Text} (h : piece ∈ cs.splitOn slash) :
    slash ∉ piece := by
  induction cs generalizing piece with
  | nil =>
      rw [List.splitOn_nil, List.mem_singleton] at h
      rw [h]
      exact List.not_mem_nil
  | cons c rest ih =>
      rw [List.splitOn_cons_eq_if_modifyHead] at h
      split at h
      · rcases List.mem_cons.1 h with rfl | h
        · exact List.not_mem_nil
        · exact ih h
      next hc =>
        cases hrest : rest.splitOn slash with
        | nil => exact absurd hrest (List.splitOn_ne_nil _ _)
        | cons first more =>
            rw [hrest] at ih h
            rcases List.mem_cons.1 h with rfl | h
            · intro hslash
              rcases List.mem_cons.1 hslash with rfl | hslash
              · exact hc BEq.rfl
              · exact ih List.mem_cons_self hslash
            · exact ih (List.mem_cons_of_mem _ h)

/-- Slashes in front make empty pieces, one each. -/
private theorem splitOn_replicate_append (n : Nat) (cs : Text) :
    (List.replicate n slash ++ cs).splitOn slash = List.replicate n [] ++ cs.splitOn slash := by
  induction n with
  | zero => rfl
  | succ n ih =>
      rw [List.replicate_succ, List.cons_append, List.splitOn_cons_eq_if_modifyHead, if_pos BEq.rfl,
        ih]
      rfl

-- ============================================================== components

/-- A component that says something, between slashes. -/
def IsComponent (name : Text) : Prop :=
  isTelling name = true ∧ slash ∉ name

/-- A path as texts denote them. -/
structure IsRead (p : Path) : Prop where
  anchor : ∃ n ≤ 2, p.anchor = List.replicate n slash
  components : ∀ name ∈ p.components, IsComponent name

theorem isRead_ofText (t : Text) : (ofText t).IsRead where
  anchor := by
    show ∃ n ≤ 2, anchorOf t = _
    unfold anchorOf
    split
    · exact ⟨0, by decide, rfl⟩
    · exact ⟨2, by decide, rfl⟩
    · exact ⟨1, by decide, rfl⟩
  components := by
    intro name h
    obtain ⟨hpiece, htelling⟩ := List.mem_filter.1 h
    exact ⟨htelling, not_mem_of_mem_splitOn hpiece⟩

private theorem IsComponent.ne_nil {name : Text} (h : IsComponent name) : name ≠ [] := by
  rintro rfl
  exact absurd h.1 (by decide)

section Texts

variable {components : List Text} (h : ∀ name ∈ components, IsComponent name)

include h

/-- Joined components are the pieces between the slashes that join them. -/
private theorem splitOn_intercalate_of_ne_nil (hne : components ≠ []) :
    ([slash].intercalate components).splitOn slash = components :=
  List.splitOn_intercalate slash (fun name hname => (h name hname).2) hne

/-- Components are found again, and no components are joined to none. -/
private theorem filter_splitOn_intercalate :
    (([slash].intercalate components).splitOn slash).filter isTelling = components := by
  cases components with
  | nil => rfl
  | cons first more =>
      rw [splitOn_intercalate_of_ne_nil h (List.cons_ne_nil _ _)]
      exact List.filter_eq_self.2 fun name hname => (h name hname).1

/-- Joined components do not begin with a slash: otherwise the first piece would
be empty, and it is the first component. -/
private theorem takeWhile_intercalate :
    ([slash].intercalate components).takeWhile (· == slash) = [] := by
  cases hjoined : [slash].intercalate components with
  | nil => rfl
  | cons c rest =>
      apply List.takeWhile_cons_of_neg
      intro hc
      obtain rfl := eq_of_beq hc
      have hnil : [] ∈ (slash :: rest).splitOn slash := by
        rw [List.splitOn_cons_eq_if_modifyHead, if_pos hc]
        exact List.mem_cons_self
      cases components with
      | nil => cases hjoined
      | cons first more =>
          rw [← hjoined, splitOn_intercalate_of_ne_nil h (List.cons_ne_nil _ _)] at hnil
          exact (h [] hnil).ne_nil rfl

/-- A text of at most two slashes and joined components denotes these. More than
two slashes would be read as one, which is why they are bounded. -/
theorem ofText_intercalate {n : Nat} (hn : n ≤ 2) :
    ofText (List.replicate n slash ++ [slash].intercalate components)
      = ⟨List.replicate n slash, components⟩ := by
  have hslash : ∀ c ∈ List.replicate n slash, (c == slash) = true := by
    intro c hc
    rw [List.eq_of_mem_replicate hc]
    rfl
  have hfront : ((List.replicate n slash ++ [slash].intercalate components).takeWhile
      (· == slash)).length = n := by
    rw [List.takeWhile_append_of_pos hslash, takeWhile_intercalate h, List.append_nil,
      List.length_replicate]
  have hempty : (List.replicate n ([] : Text)).filter isTelling = [] := by
    rw [List.filter_replicate]
    exact if_neg (by decide)
  rw [ofText, anchorOf, hfront, splitOn_replicate_append,
    List.filter_append, hempty, List.nil_append, filter_splitOn_intercalate h]
  -- what the slashes in front mean is a case for each number of them
  match n, hn with
  | 0, _ => rfl
  | 1, _ => rfl
  | 2, _ => rfl

end Texts

/-- A path is read off its text. -/
private theorem IsRead.ofText_toText {p : Path} (h : p.IsRead) : ofText p.toText = p := by
  obtain ⟨⟨n, hn, hanchor⟩, hcomponents⟩ := h
  have hread := ofText_intercalate hcomponents hn
  rw [← hanchor] at hread
  rw [toText]
  split
  next hempty =>
    -- a text that says nothing has neither slashes nor components
    rw [List.isEmpty_iff.1 hempty] at hread
    exact hread
  · exact hread

-- ================================================================= joining

/-- Joining one component extends a path by it, since a component is not anchored
and is read as itself. -/
theorem join_component (p : Path) {name : Text} (h : IsComponent name) :
    p.join (ofText name) = ⟨p.anchor, p.components ++ [name]⟩ := by
  have hone : ∀ c ∈ [name], IsComponent c := by
    intro c hc
    rw [List.mem_singleton.1 hc]
    exact h
  have hread := ofText_intercalate hone (Nat.zero_le 2)
  rw [List.intercalate_singleton, List.replicate_zero, List.nil_append] at hread
  rw [hread, join]
  exact if_pos rfl

private theorem IsRead.append {p : Path} (h : p.IsRead) {name : Text} (hname : IsComponent name) :
    IsRead ⟨p.anchor, p.components ++ [name]⟩ where
  anchor := h.anchor
  components := by
    intro c hc
    rcases List.mem_append.1 hc with hc | hc
    · exact h.components c hc
    · rw [List.mem_singleton.1 hc]
      exact hname

end Path

-- =================================================================== names

namespace Report

/-- Code points that a label is made of. -/
def IsLabelChar (c : CodePoint) : Prop :=
  c.isAlphanumeric = true ∨ c = .ofChar '-' ∨ c = .ofChar '_'

private theorem isLabelChar_labelChar (c : CodePoint) : IsLabelChar (labelChar c) := by
  rw [labelChar]
  split
  next hkept =>
    rw [Bool.or_eq_true, Bool.or_eq_true, or_assoc] at hkept
    refine hkept.imp_right fun h => h.imp ?_ ?_
    · exact fun hchar => Fin.ext (eq_of_beq hchar)
    · exact fun hchar => Fin.ext (eq_of_beq hchar)
  · exact Or.inr (Or.inr rfl)

/-- What would lead elsewhere is in no label: none of the three is a letter, a
digit, a hyphen or an underscore. -/
private theorem not_isLabelChar {c : CodePoint} (h : c = Path.slash ∨ c = Path.dot ∨ c = 0) :
    ¬ IsLabelChar c := by
  rintro (halnum | rfl | rfl)
  · rcases h with rfl | rfl | rfl <;> exact absurd halnum (by decide)
  · exact absurd h (by decide)
  · exact absurd h (by decide)

private theorem label_ne_nil (name : Text) : label name ≠ [] := by
  rw [label]
  split
  · decide
  next hne => exact fun h => hne (List.map_eq_nil_iff.1 h)

private theorem isLabelChar_of_mem_label {name : Text} : ∀ c ∈ label name, IsLabelChar c := by
  rw [label]
  split
  · have hall : (Text.ofString "report").all (·.isAlphanumeric) = true := by decide
    exact fun c hc => Or.inl (List.all_eq_true.1 hall c hc)
  · intro c hc
    obtain ⟨d, -, rfl⟩ := List.mem_map.1 hc
    exact isLabelChar_labelChar d

private theorem isDigit_of_mem_twoDigits {n : Nat} : ∀ x ∈ twoDigits n, x.isDigit = true := by
  have hdigit : ∀ d < 10, (Char.ofNat (0x30 + d)).isDigit = true := by decide
  intro x hx
  rw [twoDigits, List.mem_cons, List.mem_singleton] at hx
  rcases hx with rfl | rfl
  · exact hdigit _ (Nat.mod_lt _ (by decide))
  · exact hdigit _ (Nat.mod_lt _ (by decide))

/-- A time stamp is written in digits and two letters. -/
private theorem digit_or_letter_of_mem_stamp {now : Moment} :
    ∀ x ∈ now.stamp, x.isDigit = true ∨ x = 'T' ∨ x = 'Z' := by
  have hyear : ∀ x ∈ (ToString.toString now.year).toList, x.isDigit = true := by
    intro x hx
    have hx : x ∈ now.year.repr.toList := hx
    rw [Nat.toList_repr] at hx
    exact Nat.isDigit_of_mem_toDigits (by decide) (by decide) hx
  intro x hx
  simp only [Moment.stamp, List.mem_append, List.mem_cons, List.not_mem_nil, or_false] at hx
  rcases hx with ((hx | hx) | hx) | rfl | ((hx | hx) | hx) | rfl
  · exact Or.inl (hyear x hx)
  · exact Or.inl (isDigit_of_mem_twoDigits x hx)
  · exact Or.inl (isDigit_of_mem_twoDigits x hx)
  · exact Or.inr (Or.inl rfl)
  · exact Or.inl (isDigit_of_mem_twoDigits x hx)
  · exact Or.inl (isDigit_of_mem_twoDigits x hx)
  · exact Or.inl (isDigit_of_mem_twoDigits x hx)
  · exact Or.inr (Or.inr rfl)

/-- An ending holds nothing that divides or ends a name. -/
private theorem ne_of_mem_ending {now : Moment} {x : Char} (hx : x ∈ ending now) :
    x ≠ '/' ∧ x ≠ '\x00' := by
  rw [ending, List.mem_append, List.mem_cons] at hx
  rcases hx with (rfl | hx) | hx
  · decide
  · rcases digit_or_letter_of_mem_stamp x hx with hdigit | rfl | rfl
    · constructor
      · rintro rfl
        exact absurd hdigit (by decide)
      · rintro rfl
        exact absurd hdigit (by decide)
    · decide
    · decide
  · have hall : ".json".toList.all (fun x => x != '/' && x != '\x00') = true := by decide
    simpa using List.all_eq_true.1 hall x hx

private theorem ne_of_mem_fileName {name : Text} {now : Moment} {c : CodePoint}
    (hc : c ∈ fileName name now) : c ≠ Path.slash ∧ c ≠ 0 := by
  rw [fileName, List.mem_append, List.mem_map] at hc
  rcases hc with hc | ⟨x, hx, rfl⟩
  · have hlabel := isLabelChar_of_mem_label c hc
    constructor
    · rintro rfl
      exact not_isLabelChar (Or.inl rfl) hlabel
    · rintro rfl
      exact not_isLabelChar (Or.inr (Or.inr rfl)) hlabel
  · obtain ⟨hslash, hnull⟩ := ne_of_mem_ending hx
    exact ⟨fun h => hslash (CodePoint.ofChar_inj.1 h), fun h => hnull (CodePoint.ofChar_inj.1 h)⟩

/-- The ending alone makes a file name longer than the components that lead
elsewhere. -/
private theorem fileName_ne_of_length_le {name t : Text} {now : Moment} (h : t.length ≤ 2) :
    fileName name now ≠ t := by
  have hlabel := List.length_pos_iff.2 (label_ne_nil name)
  have hextension : ".json".toList.length = 5 := by decide
  rintro rfl
  rw [fileName, List.length_append, List.length_map, ending, List.length_append, List.length_cons,
    hextension] at h
  omega

theorem isComponent_fileName (name : Text) (now : Moment) :
    Path.IsComponent (fileName name now) := by
  refine ⟨?_, fun hslash => (ne_of_mem_fileName hslash).1 rfl⟩
  rw [Path.isTelling, Bool.and_eq_true, bne_iff_ne, bne_iff_ne]
  exact ⟨fileName_ne_of_length_le (by decide), fileName_ne_of_length_le (by decide)⟩

/-- A report stays in its directory. Whatever the directory, the name and the
time, the path of the report is that of the directory with one component
more, and its text denotes it. The component is a label that is not empty
and holds only letters and digits of any script, hyphens and underscores,
then the time stamp and the ending; so it is neither of the two components
that lead elsewhere, and it holds no slash and no null character. -/
theorem path_extends_directory (directory name : Text) (now : Moment) :
    ∃ label : Text, label ≠ []
      ∧ (∀ c ∈ label, c.isAlphanumeric = true ∨ c = .ofChar '-' ∨ c = .ofChar '_')
      ∧ ∃ component : Text,
          component = label ++ ('_' :: now.stamp ++ ".json".toList).map .ofChar
          ∧ path directory name now
            = ⟨(Path.ofText directory).anchor,
                (Path.ofText directory).components ++ [component]⟩
          ∧ component ≠ [.ofChar '.'] ∧ component ≠ [.ofChar '.', .ofChar '.']
          ∧ .ofChar '/' ∉ component ∧ .ofChar '\x00' ∉ component
          ∧ Path.ofText (path directory name now).toText = path directory name now := by
  have hcomponent := isComponent_fileName name now
  -- all that follows is about one component behind the directory's own
  have hpath : path directory name now = _ :=
    Path.join_component (Path.ofText directory) hcomponent
  refine ⟨label name, label_ne_nil name, isLabelChar_of_mem_label, fileName name now, rfl, hpath,
    fileName_ne_of_length_le (by decide), fileName_ne_of_length_le (by decide), hcomponent.2,
    fun hnull => (ne_of_mem_fileName hnull).2 rfl, ?_⟩
  rw [hpath]
  exact ((Path.isRead_ofText directory).append hcomponent).ofText_toText

-- a name that tries to climb, below a directory given with slashes to spare
example : (path (Text.ofString "out//./") (Text.ofString "../../x") ⟨2026, 1, 8, 12, 34, 56⟩).toText
    = Text.ofString "out/______x_20260108T123456Z.json" := by decide +kernel

end Report

end Pkcs12
