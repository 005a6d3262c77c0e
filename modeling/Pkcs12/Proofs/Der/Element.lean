/-
What elements are read from: an element in distinguished form is read back
from its octets, whatever stands behind them.

# Distinguished form

`IsDistinguished` says of an element that its header is the one that would be
written for its tag and its length, and that both can be read: the number of
the tag stands in one octet, and the length is below `readableBound`. Such an
element is determined by its tag and its contents
(`IsDistinguished.octets_eq_write`), and `write` produces no others. What is
read need not be distinguished, so the structure is about elements and not
about octets.

# Reading back

`IsDistinguished.read_octets` is the step: reading takes the octets of one
distinguished element and leaves the rest. From it the run, by induction on
the elements (`readMembers_octets`): elements that stand one after the other
are read one by one. Reading members is bounded by the number of octets; every
element takes at least one of them, so there is always enough. A sequence of
distinguished elements has therefore exactly these members
(`members_distinguished`).

# Sequences

`IsSequence` describes the octets of one sequence by the rules for lengths
alone, and `isSequence_iff` says that these are the octets that `write`
produces. Statements about parameters of an identifier are made with the
first and proved with the second.
-/
import Pkcs12.Der.Element
import Pkcs12.Proofs.Der.Header

namespace Pkcs12.Der

namespace Element

-- ================================================= distinguished form

/-- The distinguished element with a tag and contents. -/
def distinguished (tag : Tag) (contents : Bytes) : Element where
  header := Header.distinguished tag contents.length
  contents := contents

theorem tag_distinguished (tag : Tag) (contents : Bytes) : (distinguished tag contents).tag = tag :=
  rfl

theorem contents_distinguished (tag : Tag) (contents : Bytes) :
    (distinguished tag contents).contents = contents :=
  rfl

/-- An element in distinguished form: its header is the one that is written
for its tag and its length, and both can be read again. -/
structure IsDistinguished (e : Element) : Prop where
  header : e.header = Header.distinguished e.tag e.contents.length
  number : e.tag.number < 31
  length : e.contents.length < readableBound

theorem isDistinguished {tag : Tag} {contents : Bytes} (htag : tag.number < 31)
    (hlength : contents.length < readableBound) : (distinguished tag contents).IsDistinguished :=
  ⟨rfl, htag, hlength⟩

theorem octets_distinguished (tag : Tag) (contents : Bytes) :
    (distinguished tag contents).octets = write tag contents := by
  have hmarker : (Header.distinguished tag contents.length).markerSize = 0 := rfl
  rw [octets, distinguished, hmarker, List.replicate_zero, List.append_nil]
  rfl

/-- A distinguished element consists of its header and its contents. -/
theorem IsDistinguished.octets_eq {e : Element} (h : e.IsDistinguished) :
    e.octets = (Header.distinguished e.tag e.contents.length).octets ++ e.contents := by
  have hmarker : e.header.markerSize = 0 := by
    rw [h.header]
    rfl
  rw [octets, hmarker, h.header, List.replicate_zero, List.append_nil]

/-- A distinguished element is determined by its tag and its contents: its octets
are those that would be written for them. -/
theorem IsDistinguished.octets_eq_write {e : Element} (h : e.IsDistinguished) :
    e.octets = write e.tag e.contents := by
  rw [h.octets_eq]
  rfl

theorem length_le_length_write (tag : Tag) (contents : Bytes) :
    contents.length ≤ (write tag contents).length := by
  rw [write, List.length_cons, List.length_append]
  omega

/-- A header takes at most 128 octets: one for the tag, and one and at most 126
for the length. -/
theorem length_write_le (tag : Tag) {contents : Bytes} (h : contents.length < lengthBound) :
    (write tag contents).length ≤ contents.length + 128 := by
  have hheader := length_writeLength_le h
  rw [write, List.length_cons, List.length_append]
  omega

-- ============================================================= reading

/-- A distinguished element is read from its octets, and what stands behind them
is left over. The length is a definite one, so the depth to which elements
may be nested plays no part. -/
theorem IsDistinguished.read_octets {e : Element} (h : e.IsDistinguished) (rest : Bytes) :
    read (e.octets ++ rest) = some (e, rest) := by
  have hsize : contentsSize (elementSize (maxNesting - 1))
      (Header.distinguished e.tag e.contents.length) (e.contents ++ rest)
      = some e.contents.length := by
    have hle : e.contents.length ≤ (e.contents ++ rest).length := by simp
    exact if_pos hle
  have hmarker : (Header.distinguished e.tag e.contents.length).markerSize = 0 := rfl
  rw [h.octets_eq, List.append_assoc, read, Header.read_distinguished h.number h.length]
  simp only [hsize, hmarker]
  rw [Nat.add_zero, List.take_left' rfl, List.drop_left' rfl, ← h.header]

theorem IsDistinguished.readOnly_octets {e : Element} (h : e.IsDistinguished) :
    readOnly e.octets = some e := by
  have hread := h.read_octets []
  rw [List.append_nil] at hread
  rw [readOnly, hread]

/-- What is written is one element and no more. -/
theorem readOnly_write {tag : Tag} {contents : Bytes} (htag : tag.number < 31)
    (hlength : contents.length < readableBound) :
    readOnly (write tag contents) = some (distinguished tag contents) := by
  rw [← octets_distinguished]
  exact (isDistinguished htag hlength).readOnly_octets

-- ============================================================= members

/-- Distinguished elements that follow one another are read one by one. The fuel
is any number of octets that is not below those that are there, as the rest
of a list is read with less of it. -/
private theorem readMembers_octets {es : List Element} (h : ∀ e ∈ es, e.IsDistinguished)
    {fuel : Nat}
    (hfuel : (es.flatMap octets).length ≤ fuel) :
    readMembers fuel (es.flatMap octets) = some es := by
  induction es generalizing fuel with
  | nil => cases fuel <;> rfl
  | cons e es ih =>
      have he : e.IsDistinguished := h e List.mem_cons_self
      have hread := he.read_octets (es.flatMap octets)
      -- an element is not empty, so there is fuel for reading it
      obtain ⟨x, front, hfront⟩ : ∃ x front, e.octets = x :: front := ⟨_, _, he.octets_eq⟩
      rw [List.flatMap_cons] at hfuel ⊢
      rw [hfront, List.cons_append] at hread hfuel ⊢
      cases fuel with
      | zero => simp at hfuel
      | succ fuel =>
          rw [List.length_cons, List.length_append] at hfuel
          have hrest := ih (fun e he => h e (List.mem_cons_of_mem _ he)) (by omega : _ ≤ fuel)
          simp only [readMembers, hread, hrest, Option.map_some]

/-- A sequence of distinguished elements has exactly these members. -/
theorem members_distinguished {es : List Element} (h : ∀ e ∈ es, e.IsDistinguished) (tag : Tag) :
    (distinguished tag (es.flatMap octets)).members = some es :=
  readMembers_octets h (Nat.le_refl _)

end Element

-- =========================================================== sequences

/-- One sequence with a length in minimal definite form, whatever it
contains. -/
def IsSequence (b : Bytes) : Prop :=
  ∃ length contents, IsMinimalLength contents.length length ∧ b = 0x30 :: (length ++ contents)

/-- These are what is written for sequences: the rules leave one form for a
length, and it is the one that `write` finds. -/
theorem isSequence_iff {b : Bytes} :
    IsSequence b ↔ ∃ contents, contents.length < lengthBound ∧ b = write .sequence contents := by
  constructor
  · rintro ⟨length, contents, hminimal, rfl⟩
    obtain ⟨rfl, hbound⟩ := hminimal.eq_writeLength
    exact ⟨contents, hbound, rfl⟩
  · rintro ⟨contents, hbound, rfl⟩
    exact ⟨_, contents, isMinimalLength_writeLength hbound, rfl⟩

end Pkcs12.Der
