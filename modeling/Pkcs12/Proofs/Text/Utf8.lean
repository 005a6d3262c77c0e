/-
A text without surrogates comes back from its encoded form.

# One sequence

The first octet of a code point says how many follow and which values the next
may take. The values that it keeps out would be overlong, surrogates or too
large, and the encoding of a code point has none of them: for three octets
the window behind the first is `secondOfThree`, for four `secondOfFour`, and
the second octet of an encoding lies in it. That is arithmetic on the value
of the code point, one case per length. So each code point is read off the
front, and what stands behind it is left for the next
(`decodeLossy_encodePoint`).

# Why decoding is said to lose something

Decoding answers a replacement character where the octets are no encoding, so
it has an answer for all of them and is not injective. On what was encoded it
makes no replacement: `decodeLossy_encode` is by induction on the text, with
the law for one code point as its step.
-/
import Mathlib.Data.List.TakeWhile
import Pkcs12.Text.Utf8

namespace Pkcs12.Utf8

-- ========================================================== one sequence

/-- A continuation octet within its window brings six bits. -/
private theorem follow_continuation {w : Window} {k : Nat} (hlow : w.low.toNat ≤ 0x80 + k % 64)
    (hhigh : 0x80 + k % 64 ≤ w.high.toNat) (acc : Nat) (ws : List Window) (rest : Bytes) :
    follow acc (w :: ws) (continuation k :: rest) = follow (64 * acc + k % 64) ws rest := by
  have hvalue : (continuation k).toNat = 0x80 + k % 64 :=
    UInt8.toNat_ofNat_of_lt' (show _ < 256 by omega)
  have hwindow : w.low ≤ continuation k ∧ continuation k ≤ w.high := by
    rw [UInt8.le_iff_toNat_le, UInt8.le_iff_toNat_le, hvalue]
    exact ⟨hlow, hhigh⟩
  rw [follow, if_pos hwindow, hvalue, Nat.add_sub_cancel_left]

private theorem follow_any (k acc : Nat) (ws : List Window) (rest : Bytes) :
    follow acc (.any :: ws) (continuation k :: rest) = follow (64 * acc + k % 64) ws rest :=
  follow_continuation (show 0x80 ≤ _ by omega) (show _ ≤ 0xBF by omega) acc ws rest

/-- A sequence that is followed to its end is one character, and the rest is
decoded as if it stood alone. -/
private theorem decodeLossy_of_follow {b : UInt8} {acc n : Nat} {windows : List Window}
    {tail rest : Bytes} (hlead : lead? b = some (acc, windows))
    (hfollow : follow acc windows tail = (some n, rest)) :
    decodeLossy (b :: tail) = Char.ofNat n :: decodeLossy rest := by
  rw [decodeLossy, hlead]
  simp only [hfollow, Option.map_some, Option.getD_some]

-- ========================================================= one character

/-- The window behind the first octet of three. -/
def secondOfThree (d : Nat) : Window :=
  if d = 0 then ⟨0xA0, 0xBF⟩ else if d = 13 then ⟨0x80, 0x9F⟩ else .any

/-- The window behind the first octet of four. -/
def secondOfFour (d : Nat) : Window :=
  if d = 0 then ⟨0x90, 0xBF⟩ else if d = 4 then ⟨0x80, 0x8F⟩ else .any

deriving instance DecidableEq for Window

private theorem lead?_one : ∀ n < 0x80, lead? (UInt8.ofNat n) = some (n, []) := by
  decide

private theorem lead?_two :
    ∀ d < 32, 2 ≤ d → lead? (UInt8.ofNat (0xC0 + d)) = some (d, [.any]) := by
  decide

private theorem lead?_three : ∀ d < 16,
    lead? (UInt8.ofNat (0xE0 + d)) = some (d, [secondOfThree d, .any]) := by
  decide

private theorem lead?_four : ∀ d < 5,
    lead? (UInt8.ofNat (0xF0 + d)) = some (d, [secondOfFour d, .any, .any]) := by
  decide

/-- The second octet of three lies in its window: the form is not overlong, since
two octets would not do, and the number is no surrogate's. -/
private theorem within_secondOfThree {n : Nat} (hlong : ¬ n < 0x800)
    (hvalid : ¬ (0xD800 ≤ n ∧ n ≤ 0xDFFF)) :
    (secondOfThree (n / 4096)).low.toNat ≤ 0x80 + n / 64 % 64
      ∧ 0x80 + n / 64 % 64 ≤ (secondOfThree (n / 4096)).high.toNat := by
  rw [secondOfThree]
  split
  · exact ⟨show 0xA0 ≤ _ by omega, show _ ≤ 0xBF by omega⟩
  · split
    · exact ⟨show 0x80 ≤ _ by omega, show _ ≤ 0x9F by omega⟩
    · exact ⟨show 0x80 ≤ _ by omega, show _ ≤ 0xBF by omega⟩

/-- So does the second octet of four: three octets would not do, and the number is
that of a code point. -/
private theorem within_secondOfFour {n : Nat} (hlong : ¬ n < 0x10000) (hlt : n < 0x110000) :
    (secondOfFour (n / 262144)).low.toNat ≤ 0x80 + n / 4096 % 64
      ∧ 0x80 + n / 4096 % 64 ≤ (secondOfFour (n / 262144)).high.toNat := by
  rw [secondOfFour]
  split
  · exact ⟨show 0x90 ≤ _ by omega, show _ ≤ 0xBF by omega⟩
  · split
    · exact ⟨show 0x80 ≤ _ by omega, show _ ≤ 0x8F by omega⟩
    · exact ⟨show 0x80 ≤ _ by omega, show _ ≤ 0xBF by omega⟩

/-- What is encoded for a code point that is no surrogate is read as its
character, with whatever stands behind it left over. -/
theorem decodeLossy_encodePoint {c : CodePoint} (h : c.isSurrogate = false) (rest : Bytes) :
    decodeLossy (encodePoint c ++ rest) = Char.ofNat c.val :: decodeLossy rest := by
  have hlt := c.isLt
  have hvalid : ¬ (0xD800 ≤ c.val ∧ c.val ≤ 0xDFFF) := by
    simpa [CodePoint.isSurrogate] using h
  simp only [encodePoint]
  -- what follows is about the number alone, one case per count of octets
  generalize c.val = n at hlt hvalid ⊢
  by_cases hone : n < 0x80
  · rw [if_pos hone, List.singleton_append]
    exact decodeLossy_of_follow (lead?_one n hone) rfl
  rw [if_neg hone]
  by_cases htwo : n < 0x800
  · rw [if_pos htwo, List.cons_append, List.singleton_append]
    refine decodeLossy_of_follow (lead?_two (n / 64) (by omega) (by omega)) ?_
    rw [follow_any, follow]
    congr 2
    omega
  rw [if_neg htwo]
  by_cases hthree : n < 0x10000
  · rw [if_pos hthree, List.cons_append, List.cons_append, List.singleton_append]
    refine decodeLossy_of_follow (lead?_three (n / 4096) (by omega)) ?_
    obtain ⟨hlow, hhigh⟩ := within_secondOfThree htwo hvalid
    rw [follow_continuation hlow hhigh, follow_any, follow]
    congr 2
    omega
  · rw [if_neg hthree, List.cons_append, List.cons_append, List.cons_append,
      List.singleton_append]
    refine decodeLossy_of_follow (lead?_four (n / 262144) (by omega)) ?_
    obtain ⟨hlow, hhigh⟩ := within_secondOfFour hthree hlt
    rw [follow_continuation hlow hhigh, follow_any, follow_any, follow]
    congr 2
    omega

-- ========================================================== whole texts

/-- A text that has an encoded form is without surrogates, and the form is
that of its code points one after the other. -/
theorem eq_of_encode {t : Text} {b : Bytes} (h : encode t = .ok b) :
    (∀ c ∈ t, c.isSurrogate = false) ∧ b = t.flatMap encodePoint := by
  rw [encode] at h
  cases hdrop : t.dropWhile (!·.isSurrogate) with
  | nil =>
      rw [hdrop] at h
      have hplain := List.dropWhile_eq_nil_iff.1 hdrop
      exact ⟨fun c hc => Bool.not_eq_true' _ ▸ hplain c hc, (Except.ok.inj h).symm⟩
  | cons c rest =>
      rw [hdrop] at h
      cases h

/-- The code point of a character that has one: surrogates are the only numbers
below the bound that have none. -/
private theorem ofChar_ofNat {c : CodePoint} (h : c.isSurrogate = false) :
    CodePoint.ofChar (Char.ofNat c.val) = c := by
  have hlt := c.isLt
  have hvalid : c.val.isValidChar := by
    have : ¬ (0xD800 ≤ c.val ∧ c.val ≤ 0xDFFF) := by
      simpa [CodePoint.isSurrogate] using h
    rw [Nat.isValidChar]
    omega
  apply Fin.ext
  show (Char.ofNat c.val).toNat = c.val
  rw [Char.ofNat, dif_pos hvalid]
  rfl

/-- Decoding undoes encoding. -/
theorem decodeLossy_encode {t : Text} {b : Bytes} (h : encode t = .ok b) :
    Text.ofString (String.ofList (decodeLossy b)) = t := by
  obtain ⟨hplain, rfl⟩ := eq_of_encode h
  rw [Text.ofString, String.toList_ofList]
  clear h
  induction t with
  | nil => rw [List.flatMap_nil, decodeLossy, List.map_nil]
  | cons c t ih =>
      have hc := hplain c List.mem_cons_self
      rw [List.flatMap_cons, decodeLossy_encodePoint hc, List.map_cons, ofChar_ofNat hc,
        ih fun d hd => hplain d (List.mem_cons_of_mem c hd)]

end Pkcs12.Utf8
