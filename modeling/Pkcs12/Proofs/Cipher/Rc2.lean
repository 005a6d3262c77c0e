/-
RC2 is a permutation of blocks under every key.

# Shape of the argument

Each step of encryption replaces one word and leaves the other three, on
which alone the replacement depends. So a step is undone from what it leaves
behind: the same amount is computed again, subtracted where it was added, and
the turn is taken back. A mashing step does not even turn. That is
`backward_forward` and `forward_backward`, one case per kind of step, and
from there the steps of a whole schedule are undone one by one, last step
first (`foldl_backward_forward`, by induction on the schedule).

Nothing is asked of the expanded key. It is the same array on the way out and
on the way back, and the two loops only ever read it; so the result holds for
keys of any length, those that are never accepted included.

# Turns

A turn to the left by `t` and one by `16 - t` make a whole turn, which is
shown bit by bit: `testBit_turnLeft` says where each bit of a turned word
comes from. The turns have to be proper ones, by more than nothing and less
than the word, since a shift by 16 is one by nothing here;
`isProper_of_mem_schedule` reads off the rounds that the schedule only turns
by 1, 2, 3 and 5.

# Octets

A block is read as four words, low octet first, and written back. Both ways
are `omega` on the value of a word (`toNat_word`).
-/
import Pkcs12.Cipher.Rc2

namespace Pkcs12.Rc2

-- ============================================================ turning

section Turning

variable {x t : UInt16}

private theorem toNat_sixteen_sub (hlt : t.toNat < 16) : (16 - t).toNat = 16 - t.toNat :=
  UInt16.toNat_sub_of_le _ _ (by
    rw [UInt16.le_iff_toNat_le]
    exact Nat.le_of_lt hlt)

/-- A turned word, bit by bit: what leaves at the upper end comes back at
the lower one. Shifts are taken modulo the width of the word, which is why
the turn has to be a proper one. -/
private theorem testBit_turnLeft (hpos : 0 < t.toNat) (hlt : t.toNat < 16) {i : Nat} (hi : i < 16) :
    (turnLeft x t).toNat.testBit i
      = if i < t.toNat then x.toNat.testBit (i + (16 - t.toNat))
        else x.toNat.testBit (i - t.toNat) := by
  rw [turnLeft, UInt16.toNat_or, UInt16.toNat_shiftLeft, UInt16.toNat_shiftRight,
    toNat_sixteen_sub hlt, Nat.mod_eq_of_lt hlt,
    Nat.mod_eq_of_lt (show 16 - t.toNat < 16 by omega), Nat.testBit_or, Nat.testBit_mod_two_pow,
    Nat.testBit_shiftLeft, Nat.testBit_shiftRight, decide_eq_true hi, Bool.true_and,
    Nat.add_comm (16 - t.toNat) i]
  -- below the turn only the part shifted down has a bit, from there on only
  -- the part shifted up
  by_cases hit : i < t.toNat
  · rw [if_pos hit, decide_eq_false (by omega), Bool.false_and, Bool.false_or]
  · have hhigh : x.toNat.testBit (i + (16 - t.toNat)) = false :=
      Nat.testBit_lt_two_pow (Nat.lt_of_lt_of_le x.toNat_lt
        (Nat.pow_le_pow_right (by decide) (by omega)))
    rw [if_neg hit, decide_eq_true (by omega), Bool.true_and, hhigh, Bool.or_false]

/-- Turning to the right is turning to the left by what is missing to a
whole turn. -/
private theorem turnRight_eq (x t : UInt16) : turnRight x t = turnLeft x (16 - t) := by
  have hback : 16 - (16 - t) = t := by
    rw [UInt16.sub_eq_iff_eq_add, UInt16.add_comm, UInt16.sub_add_cancel]
  rw [turnRight, turnLeft, hback, UInt16.or_comm]

/-- Two turns that make a whole one. A bit taken past the upper end by the first
turn is brought back by the second, and the other way round. -/
private theorem turnLeft_turnLeft {t' : UInt16} (hpos : 0 < t.toNat)
    (hsum : t.toNat + t'.toNat = 16)
    (hpos' : 0 < t'.toNat) : turnLeft (turnLeft x t) t' = x := by
  apply UInt16.toNat_inj.mp
  apply Nat.eq_of_testBit_eq
  intro i
  -- bits beyond the word are zero on both sides; within it, follow bit i
  -- back through both turns
  by_cases hi : i < 16
  · rw [testBit_turnLeft hpos' (by omega) hi]
    by_cases hlow : i < t'.toNat
    · rw [if_pos hlow, testBit_turnLeft hpos (by omega) (by omega), if_neg (by omega)]
      congr 1
      omega
    · rw [if_neg hlow, testBit_turnLeft hpos (by omega) (by omega), if_pos (by omega)]
      congr 1
      omega
  · have hhigh (y : UInt16) : y.toNat.testBit i = false :=
      Nat.testBit_lt_two_pow (Nat.lt_of_lt_of_le y.toNat_lt
        (Nat.pow_le_pow_right (by decide) (by omega)))
    rw [hhigh, hhigh]

theorem turnRight_turnLeft (hpos : 0 < t.toNat) (hlt : t.toNat < 16) :
    turnRight (turnLeft x t) t = x := by
  have hsub := toNat_sixteen_sub hlt
  rw [turnRight_eq, turnLeft_turnLeft hpos (by omega) (by omega)]

theorem turnLeft_turnRight (hpos : 0 < t.toNat) (hlt : t.toNat < 16) :
    turnLeft (turnRight x t) t = x := by
  have hsub := toNat_sixteen_sub hlt
  rw [turnRight_eq, turnLeft_turnLeft (by omega) (by omega) hpos]

end Turning

-- ============================================================== steps

/-- A step that turns by less than a whole turn and not by nothing, so that its
turn can be taken back. A mashing step does not turn. -/
def Step.IsProper : Step → Prop
  | .mix _ turn => 0 < turn.toNat ∧ turn.toNat < 16
  | .mash => True

variable {k : Vector UInt16 64} {steps : List Step}

/-- A step is undone from what it leaves behind: the words it reads are still
there. -/
theorem backward_forward {s : Step} (hs : s.IsProper) (w : Words) :
    s.backward k (s.forward k w) = w := by
  cases s with
  | mix key turn =>
      simp only [Step.forward, Step.backward, turnRight_turnLeft hs.1 hs.2,
        UInt16.add_sub_cancel]
  | mash => simp only [Step.forward, Step.backward, UInt16.add_sub_cancel]

/-- The other order, with addition and subtraction exchanged. -/
theorem forward_backward {s : Step} (hs : s.IsProper) (w : Words) :
    s.forward k (s.backward k w) = w := by
  cases s with
  | mix key turn =>
      simp only [Step.forward, Step.backward, UInt16.sub_add_cancel,
        turnLeft_turnRight hs.1 hs.2]
  | mash => simp only [Step.forward, Step.backward, UInt16.sub_add_cancel]

/-- The last step is the first to be undone. -/
private theorem foldl_backward_forward (hs : ∀ s ∈ steps, s.IsProper) (w : Words) :
    steps.reverse.foldl (Step.backward k) (steps.foldl (Step.forward k) w) = w := by
  induction steps generalizing w with
  | nil => rfl
  | cons s steps ih =>
      rw [List.reverse_cons, List.foldl_append, List.foldl_cons (l := steps),
        ih fun r hr => hs r (List.mem_cons_of_mem _ hr)]
      exact backward_forward (hs s (List.mem_cons_self ..)) w

private theorem foldl_forward_backward (hs : ∀ s ∈ steps, s.IsProper) (w : Words) :
    steps.foldl (Step.forward k) (steps.reverse.foldl (Step.backward k) w) = w := by
  induction steps with
  | nil => rfl
  | cons s steps ih =>
      rw [List.reverse_cons, List.foldl_append, List.foldl_cons]
      -- the first step of the schedule is the last to be undone, so it meets its
      -- inverse in the middle
      show steps.foldl (Step.forward k) (Step.forward k (Step.backward k _ s) s) = w
      rw [forward_backward (hs s (List.mem_cons_self ..))]
      exact ih fun r hr => hs r (List.mem_cons_of_mem _ hr)

/-- The mixing rounds turn by 1, 2, 3 and 5, and the schedule consists of these
and the mashing rounds; each round is looked through, not each step. -/
private theorem isProper_of_mem_schedule {s : Step} (hs : s ∈ schedule k) : s.IsProper := by
  obtain ⟨i, -, hs⟩ := List.mem_flatMap.mp hs
  have hmash : ∀ r ∈ mashingRound, r.IsProper := by
    intro r hr
    rw [mashingRound] at hr
    simp only [List.mem_cons, List.not_mem_nil, or_false, or_self] at hr
    rw [hr]
    exact trivial
  rcases List.mem_append.mp hs with hs | hs
  · rw [mixingRound] at hs
    simp only [List.mem_cons, List.not_mem_nil, or_false] at hs
    rcases hs with rfl | rfl | rfl | rfl
    all_goals exact ⟨by decide, by decide⟩
  · split at hs
    · exact hmash s hs
    · cases hs

-- ============================================================= blocks

section Words

variable (low high : UInt8)

private theorem toNat_word : (ofBytes.word low high).toNat = low.toNat + 256 * high.toNat := by
  have hl : low.toNat < 2 ^ 8 := low.toNat_lt
  have hh : high.toNat < 2 ^ 8 := high.toNat_lt
  have hshift : high.toUInt16.toNat <<< ((8 : UInt16).toNat % 16) % 2 ^ 16
      = 2 ^ 8 * high.toNat := by
    rw [UInt8.toNat_toUInt16, show (8 : UInt16).toNat % 16 = 8 from rfl, Nat.shiftLeft_eq]
    omega
  rw [ofBytes.word, UInt16.toNat_or, UInt16.toNat_shiftLeft, UInt8.toNat_toUInt16, hshift,
    Nat.or_comm, ← Nat.two_pow_add_eq_or_of_lt hl]
  omega

private theorem toUInt8_word : (ofBytes.word low high).toUInt8 = low := by
  have hl : low.toNat < 256 := low.toNat_lt
  apply UInt8.toNat_inj.mp
  rw [UInt16.toNat_toUInt8, toNat_word]
  omega

private theorem toUInt8_word_shift : (ofBytes.word low high >>> 8).toUInt8 = high := by
  have hl : low.toNat < 256 := low.toNat_lt
  have hh : high.toNat < 256 := high.toNat_lt
  apply UInt8.toNat_inj.mp
  rw [UInt16.toNat_toUInt8, UInt16.toNat_shiftRight, toNat_word,
    show (8 : UInt16).toNat % 16 = 8 from rfl, Nat.shiftRight_eq_div_pow]
  omega

private theorem word_toUInt8 (x : UInt16) : ofBytes.word x.toUInt8 (x >>> 8).toUInt8 = x := by
  have hx : x.toNat < 65536 := x.toNat_lt
  apply UInt16.toNat_inj.mp
  rw [toNat_word, UInt16.toNat_toUInt8, UInt16.toNat_toUInt8, UInt16.toNat_shiftRight,
    show (8 : UInt16).toNat % 16 = 8 from rfl, Nat.shiftRight_eq_div_pow]
  omega

end Words

theorem length_toBytes (w : Words) : (toBytes w).length = 8 := rfl

theorem ofBytes_toBytes (w : Words) : ofBytes (toBytes w) = w := by
  show (⟨ofBytes.word _ _, ofBytes.word _ _, ofBytes.word _ _, ofBytes.word _ _⟩ : Words) = w
  rw [word_toUInt8, word_toUInt8, word_toUInt8, word_toUInt8]

theorem toBytes_ofBytes {b : Bytes} (hb : b.length = 8) : toBytes (ofBytes b) = b := by
  match b, hb with
  | [b₀, b₁, b₂, b₃, b₄, b₅, b₆, b₇], _ =>
      simp only [ofBytes, toBytes, List.flatMap_cons, List.flatMap_nil, toUInt8_word,
        toUInt8_word_shift, List.cons_append, List.nil_append]

-- ============================================================ the cipher

/-- RC2 is a permutation of blocks under every key: reading and writing words
cancel on the inside, and the steps with their reverses between them. -/
theorem isPermutation_keyed (key : Bytes) : (keyed key).IsPermutation where
  length_forward _ _ := length_toBytes _
  length_backward _ _ := length_toBytes _
  backward_forward b hb := by
    show toBytes ((schedule (expand key)).reverse.foldl _ (ofBytes (toBytes _))) = b
    rw [ofBytes_toBytes, foldl_backward_forward fun s hs => isProper_of_mem_schedule hs,
      toBytes_ofBytes hb]
  forward_backward b hb := by
    show toBytes ((schedule (expand key)).foldl _ (ofBytes (toBytes _))) = b
    rw [ofBytes_toBytes, foldl_forward_backward fun s hs => isProper_of_mem_schedule hs,
      toBytes_ofBytes hb]

end Pkcs12.Rc2
