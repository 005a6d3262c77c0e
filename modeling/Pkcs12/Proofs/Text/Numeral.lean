/-
Numerals: what `toString` writes for a number is read as that number, up to
the greatest length that is read at all.

# Writing and reading by the last digit

Both sides go one digit at a time from the front, but a number gives its last
digit away first. So the facts below split the last digit off a numeral
(`numeral_of_lt`, `numeral_of_le`) and are strong inductions on the number.
Reading carries what it has read; its law (`digitRun_numeral`) is that a
numeral in front of anything leaves just the number in hand.

# What is read besides

A run of digits may hold underscores between them, and digits of other scripts
count like those of ASCII. Numerals have neither, but the tests in front of
the reading look for both, which is where `isChar_digit` and
`isBlank_of_decimalValue?` come in.

# The limit

More than `Numeral.maxDigits` digits are refused, so every number that is
read is below `Numeral.bound` (`lt_of_digitRun`: digits read onto a number
leave it below the power of ten for their count), and every number below the
bound is read from its numeral. The statements about counts on the command
line and in the settings have this bound in them and no other.
-/
import Pkcs12.Proofs.Outcome
import Pkcs12.Text.Numeral

namespace Pkcs12

-- ============================================================== digits

namespace CodePoint

/-- The ASCII digit of a number below ten. -/
def digit (d : Nat) : CodePoint :=
  ofChar d.digitChar

private theorem decimalValue?_digit : ∀ d < 10, (digit d).decimalValue? = some d := by
  decide

/-- Digits are neither separators within a number nor between numbers. -/
theorem isChar_digit : ∀ d < 10, (digit d).isChar '_' = false ∧ (digit d).isChar '.' = false := by
  decide

/-- No script counts a blank among its digits. The digits of a script are ten
code points from its zero on, so the table of the zeros is run through. -/
theorem isBlank_of_decimalValue? {c : CodePoint} (h : c.decimalValue?.isSome) :
    c.isBlank = false := by
  have htable : ∀ z ∈ zeros, z + 10 < 0x110000
      ∧ ∀ k < 10, isBlank (Fin.ofNat 0x110000 (z + k)) = false := by
    decide +kernel
  obtain ⟨d, hd⟩ := Option.isSome_iff_exists.1 h
  obtain ⟨z, hz, -⟩ := Option.map_eq_some_iff.1 hd
  obtain ⟨hbound, hdigits⟩ := htable z (List.mem_of_find?_eq_some hz)
  have hrange := List.find?_some hz
  simp only [Bool.and_eq_true, decide_eq_true_eq] at hrange
  -- the code point is within ten of the zero that was found for it
  have hc : c = Fin.ofNat 0x110000 (z + (c.val - z)) := by
    apply Fin.ext
    rw [Fin.val_ofNat]
    omega
  rw [hc]
  exact hdigits _ (by omega)

end CodePoint

namespace Text

open Outcome (map_eq_ok_iff bind_eq_ok_iff)

theorem length_ofString (s : String) : (ofString s).length = s.length := by
  rw [ofString, List.length_map, String.length_toList]

-- ============================================================ numerals

/-- The numeral of a number: ASCII digits, the first of them not zero
unless it is the only one. -/
def numeral (n : Nat) : Text :=
  ofString (toString n)

theorem numeral_eq_map (n : Nat) : numeral n = (Nat.toDigits 10 n).map CodePoint.ofChar := by
  rw [numeral, ofString, Nat.toString_eq_repr, Nat.toList_repr]

theorem numeral_of_lt {n : Nat} (h : n < 10) : numeral n = [CodePoint.digit n] := by
  rw [numeral_eq_map, Nat.toDigits_of_lt_base h]
  rfl

theorem numeral_of_le {n : Nat} (h : 10 ≤ n) :
    numeral n = numeral (n / 10) ++ [CodePoint.digit (n % 10)] := by
  rw [numeral_eq_map, numeral_eq_map, Nat.toDigits_of_base_le (by decide) h, List.map_append]
  rfl

theorem length_numeral_pos (n : Nat) : 0 < (numeral n).length := by
  rw [numeral_eq_map, List.length_map]
  exact Nat.length_toDigits_pos

/-- A numeral has at most `v` digits just if the number is below the power of
ten. -/
theorem length_numeral_le_iff {n v : Nat} (hv : 0 < v) : (numeral n).length ≤ v ↔ n < 10 ^ v := by
  rw [numeral_eq_map, List.length_map, Nat.length_toDigits_le_iff (by decide) hv]

/-- A numeral consists of digits. -/
theorem exists_digit_of_mem_numeral {n : Nat} {c : CodePoint} (h : c ∈ numeral n) :
    ∃ d < 10, c = CodePoint.digit d := by
  induction n using Nat.strongRecOn with
  | ind n ih =>
      by_cases hn : n < 10
      · rw [numeral_of_lt hn, List.mem_singleton] at h
        exact ⟨n, hn, h⟩
      · rw [numeral_of_le (by omega), List.mem_append, List.mem_singleton] at h
        rcases h with h | h
        · exact ih (n / 10) (by omega) h
        · exact ⟨n % 10, by omega, h⟩

theorem isSome_decimalValue?_of_mem_numeral {n : Nat} {c : CodePoint} (h : c ∈ numeral n) :
    c.decimalValue?.isSome := by
  obtain ⟨d, hd, rfl⟩ := exists_digit_of_mem_numeral h
  rw [CodePoint.decimalValue?_digit d hd]
  rfl

-- ============================================================= reading

/-- The digits of a numeral are read one after the other, and then the number is
in hand. By strong induction on the number, with the rest generalised: the
last digit belongs to the rest of what is in front of it. -/
private theorem digitRun_numeral (due : Bool) (n : Nat) (rest : Text) :
    digitRun due 0 (numeral n ++ rest) = digitRun false n rest := by
  have hdigit (due : Bool) (acc d : Nat) (rest : Text) (hd : d < 10) :
      digitRun due acc (CodePoint.digit d :: rest) = digitRun false (10 * acc + d) rest := by
    rw [digitRun]
    simp [CodePoint.isChar_digit d hd, CodePoint.decimalValue?_digit d hd]
  induction n using Nat.strongRecOn generalizing rest with
  | ind n ih =>
      by_cases hn : n < 10
      · rw [numeral_of_lt hn, List.singleton_append, hdigit due 0 n rest hn, Nat.mul_zero,
          Nat.zero_add]
      · rw [numeral_of_le (by omega), List.append_assoc, List.singleton_append,
          ih (n / 10) (by omega), hdigit false _ _ rest (by omega), Nat.div_add_mod]

/-- Every number below the bound is read from its numeral. -/
theorem toNat_numeral {n : Nat} (h : n < Numeral.bound) : toNat (numeral n) = .ok n := by
  have hrun : (numeral n).takeWhile inRun = numeral n := by
    have hall : ∀ c ∈ numeral n, inRun c := fun c hc => by
      rw [inRun, isSome_decimalValue?_of_mem_numeral hc, Bool.or_true]
    have happend : (numeral n ++ []).takeWhile inRun = numeral n ++ [].takeWhile inRun :=
      List.takeWhile_append_of_pos hall
    rw [List.append_nil, List.takeWhile_nil, List.append_nil] at happend
    exact happend
  have hread : digitRun true 0 (numeral n) = some n := by
    have := digitRun_numeral true n []
    rw [List.append_nil] at this
    exact this
  have hdigits : (numeral n).countP (fun c => c.decimalValue?.isSome) = (numeral n).length :=
    List.countP_eq_length.2 fun _ => isSome_decimalValue?_of_mem_numeral
  -- the numeral has no more digits than are read, and no character in it that
  -- is not one
  have hlength : ¬ Numeral.maxDigits < (numeral n).length :=
    Nat.not_lt.2 ((length_numeral_le_iff (by decide)).2 h)
  simp only [toNat, hrun, hread, hdigits]
  rw [if_neg hlength, if_neg (Nat.lt_irrefl _)]

-- ============================================================== limits

/-- Digits read onto a number leave it below the power of ten for their count;
underscores are not counted and add nothing. -/
private theorem lt_of_digitRun {due : Bool} {acc n : Nat} {t : Text}
    (h : digitRun due acc t = some n) :
    n < (acc + 1) * 10 ^ t.countP fun c => c.decimalValue?.isSome := by
  induction t generalizing due acc with
  | nil =>
      rw [digitRun] at h
      split at h
      · cases h
      · cases h
        simp
  | cons c cs ih =>
      rw [digitRun] at h
      split at h
      · split at h
        · cases h
        · refine Nat.lt_of_lt_of_le (ih h) (Nat.mul_le_mul_left _ ?_)
          exact Nat.pow_le_pow_right (by decide) ((List.sublist_cons_self c cs).countP_le)
      · split at h
        next d hd =>
          have hlt := CodePoint.decimalValue?_lt hd
          have hcount : (c :: cs).countP (fun c => c.decimalValue?.isSome)
              = cs.countP (fun c => c.decimalValue?.isSome) + 1 :=
            List.countP_cons_of_pos (by rw [hd, Option.isSome_some])
          rw [hcount, Nat.pow_succ', ← Nat.mul_assoc]
          exact Nat.lt_of_lt_of_le (ih h) (Nat.mul_le_mul_right _ (by omega))
        next => cases h

private theorem lt_bound_of_toNat {t : Text} {n : Nat} (h : toNat t = .ok n) :
    n < Numeral.bound := by
  rw [toNat] at h
  split at h
  next => cases h
  next m hrun =>
    simp only at h
    split at h
    next => cases h
    next hdigits =>
      split at h
      next => cases h
      next =>
        cases h
        have hlt := lt_of_digitRun hrun
        rw [Nat.zero_add, Nat.one_mul] at hlt
        exact Nat.lt_of_lt_of_le hlt (Nat.pow_le_pow_right (by decide) (Nat.not_lt.1 hdigits))

/-- Behind the sign of an integer is its absolute value, in one of three cases:
minus, plus, no sign. -/
private theorem exists_toNat_of_signed {t : Text} {n : Int} (h : signed t = .ok n) :
    ∃ u, toNat u = .ok n.natAbs := by
  cases t with
  | nil => cases h
  | cons c cs =>
      rw [signed] at h
      split at h
      · obtain ⟨k, hk, rfl⟩ := map_eq_ok_iff.1 h
        obtain ⟨m, hread, hm⟩ := bind_eq_ok_iff.1 hk
        cases hm
        exact ⟨cs, by rw [hread, Int.natAbs_neg, Int.natAbs_natCast]⟩
      · split at h
        · obtain ⟨m, hread, rfl⟩ := map_eq_ok_iff.1 h
          exact ⟨cs, hread⟩
        · obtain ⟨m, hread, rfl⟩ := map_eq_ok_iff.1 h
          exact ⟨c :: cs, hread⟩

/-- An integer that is read can be named. -/
theorem natAbs_lt_bound_of_toInt {t : Text} {n : Int} (h : toInt t = .ok n) :
    n.natAbs < Numeral.bound := by
  obtain ⟨u, hu⟩ := exists_toNat_of_signed h
  exact lt_bound_of_toNat hu

end Text

end Pkcs12
