/-
Padding: what is written, what is accepted, and that the two are inverse to
each other on whole blocks.

# What is written

`count` computes the number of octets to add with signed numbers and the
remainder that belongs to them; for a positive block size it is `needed`, the
distance to the next multiple, which lies between one and the block size
(`count_eq`, `needed_bounds`). Every added octet tells that number, so
padding succeeds exactly if the number is an octet (`pad_eq`). For block
sizes up to 255 it always is; beyond, it depends on the length of the data.

# What is accepted

Removing a padding reads the last octet and compares as many octets at the
end with it. Its exact description is `unpad_eq_ok_iff`: the answer is `m`
just on the strings `m` and `p` octets of value `p`, for a `p` within the
bounds. The string need not be of whole blocks there. Everything else is
refused with one error (`unpad_eq_error`), so that the refusals are the
complement of that set and say nothing about the octets.

# Both directions

A written padding is removed because it has the described form. Conversely
the `p` of an accepted string of whole blocks is determined by the length of
what stands before it, as both are below the block size up to a multiple of
it (`pad_of_unpad`); so a string of whole blocks that is accepted is the one
that padding writes. `unpad_of_block_eq` is the form the laws on damaged
ciphertexts use: whether whole blocks are accepted is decided by the last of
them.
-/
import Pkcs12.Cipher.Padding
import Pkcs12.Proofs.Bytes.Chunks

namespace Pkcs12.Padding

/-- A padding of `p` octets. -/
def octets (p : Nat) : Bytes :=
  List.replicate p (UInt8.ofNat p)

theorem length_octets (p : Nat) : (octets p).length = p := List.length_replicate

/-- How many octets are added to `length` octets for whole blocks of `b`: at least
one, so that there is always an octet that tells the number. -/
def needed (b length : Nat) : Nat :=
  b - length % b

-- =========================================================== writing

theorem needed_bounds {b : Nat} (hb : 0 < b) (length : Nat) :
    1 ≤ needed b length ∧ needed b length ≤ b := by
  have := Nat.mod_lt length hb
  unfold needed
  omega

/-- The padded length is the next multiple of the block size. -/
theorem length_add_needed {b : Nat} (hb : 0 < b) (length : Nat) :
    length + needed b length = b * (length / b + 1) := by
  have hdiv := Nat.div_add_mod length b
  have hmod := Nat.mod_lt length hb
  rw [Nat.mul_succ]
  unfold needed
  omega

/-- For a positive block size the signed count is the number needed: the
remainder of a floored division by a positive number is that of the naturals. -/
private theorem count_eq {b : Nat} (hb : 0 < b) (length : Nat) :
    count length b = needed b length := by
  have hmod := Nat.mod_lt length hb
  have hfmod : Int.fmod (length : Int) (b : Int) = ((length % b : Nat) : Int) := by
    rw [Int.fmod_eq_emod_of_nonneg _ (by omega), Int.natCast_emod]
  unfold count needed
  rw [hfmod]
  omega

/-- Padding succeeds exactly when the number needed is an octet. -/
theorem pad_eq {b : Nat} (hb : 0 < b) (data : Bytes) :
    pad data b
      = if needed b data.length ≤ 255 then .ok (data ++ octets (needed b data.length))
        else .error (.misuse .paddingOctet) := by
  have hzero : ¬ ((b : Int) = 0) := by omega
  unfold pad
  rw [if_neg hzero, count_eq hb]
  by_cases hle : needed b data.length ≤ 255
  · rw [if_pos (by omega), if_pos hle]
    rfl
  · rw [if_neg (by omega), if_neg hle]

theorem exists_pad_iff {b : Nat} (hb : 0 < b) (data : Bytes) :
    (∃ x, pad data b = .ok x) ↔ needed b data.length ≤ 255 := by
  rw [pad_eq hb]
  constructor
  · rintro ⟨x, h⟩
    split at h
    next hoctet => exact hoctet
    · cases h
  · intro hoctet
    exact ⟨_, if_pos hoctet⟩

/-- What is written are the data and at most a block after them, and it is
whole blocks: all that can be said of the result without looking at the
octets added. -/
private theorem length_of_pad {b : Nat} (hb : 0 < b) {data x : Bytes} (h : pad data b = .ok x) :
    data <+: x ∧ data.length + 1 ≤ x.length ∧ x.length ≤ data.length + b ∧ x.length % b = 0 := by
  have ⟨hpos, hle⟩ := needed_bounds hb data.length
  rw [pad_eq hb] at h
  split at h
  · cases h
    refine ⟨List.prefix_append .., ?_, ?_, ?_⟩
    · rw [List.length_append, length_octets]
      omega
    · rw [List.length_append, length_octets]
      omega
    · rw [List.length_append, length_octets, length_add_needed hb, Nat.mul_mod_right]
  · cases h

-- ========================================================== removing

/-- Removing a padding answers exactly what stands before it. The block size is
any whole number here; a block size of zero or less accepts nothing, as no
`p` is within the bounds. -/
theorem unpad_eq_ok_iff {x m : Bytes} {b : Int} :
    unpad x b = .ok m ↔ ∃ p : Nat, 1 ≤ p ∧ p ≤ 255 ∧ (p : Int) ≤ b ∧ x = m ++ octets p := by
  constructor
  · intro h
    -- the four tests of the definition in turn: there is a last octet, it is
    -- within the range, there are enough octets, and they are all alike
    simp only [unpad] at h
    split at h
    · cases h
    next last hlast =>
      have hoctet : last.toNat < 256 := last.toNat_lt
      split at h
      · cases h
      next hrange =>
        split at h
        · cases h
        next hlen =>
          split at h
          next hdrop =>
            injection h with hm
            refine ⟨last.toNat, by omega, by omega, by omega, ?_⟩
            rw [← hm, octets, UInt8.ofNat_toNat, ← hdrop, List.take_append_drop]
          · cases h
  · rintro ⟨p, hpos, hoctet, hb, rfl⟩
    -- conversely such a string passes each test, since its last octet is p
    have hval : (UInt8.ofNat p).toNat = p :=
      UInt8.toNat_ofNat_of_lt' (show _ < 256 by omega)
    have hlast : (m ++ octets p).getLast? = some (UInt8.ofNat p) := by
      rw [octets, List.getLast?_append, List.getLast?_replicate, if_neg (by omega)]
      rfl
    have hbody : (m ++ octets p).length - p = m.length := by
      rw [List.length_append, length_octets, Nat.add_sub_cancel]
    unfold unpad
    rw [hlast]
    simp only [hval, hbody]
    rw [if_neg (by omega), if_neg (by rw [List.length_append, length_octets]; omega),
      List.drop_left, List.take_left]
    exact if_pos rfl

/-- Every deviation is refused in the same way, whichever test it fails. -/
theorem unpad_eq_error {x : Bytes} {b : Int} {e : Error} (h : unpad x b = .error e) :
    e = .decryption := by
  simp only [unpad] at h
  split at h
  · cases h; rfl
  · split at h
    · cases h; rfl
    · split at h
      · cases h; rfl
      · split at h
        · cases h
        · cases h; rfl

/-- A block size that is an octet leaves no other bound on the padding. -/
private theorem unpad_eq_ok_iff_of_le {b : Nat} (hb : b ≤ 255) {x m : Bytes} :
    unpad x b = .ok m ↔ ∃ p : Nat, 1 ≤ p ∧ p ≤ b ∧ x = m ++ octets p := by
  rw [unpad_eq_ok_iff]
  constructor
  · rintro ⟨p, hpos, -, hle, hx⟩
    exact ⟨p, hpos, by omega, hx⟩
  · rintro ⟨p, hpos, hle, hx⟩
    exact ⟨p, hpos, by omega, by omega, hx⟩

/-- Without a padding to remove there is only the one error. -/
theorem unpad_eq_error_iff {x : Bytes} {b : Int} :
    unpad x b = .error .decryption ↔ ∀ m, unpad x b ≠ .ok m := by
  cases h : unpad x b with
  | ok m => exact ⟨fun herr => (nomatch herr), fun hnone => absurd rfl (hnone m)⟩
  | error e =>
      obtain rfl := unpad_eq_error h
      exact ⟨fun _ m hok => (nomatch hok), fun _ => rfl⟩

/-- A padding stands within the last `b` octets, so nothing before them matters.
For an accepted end this is reassociation; a refused end must not be accepted
with something in front of it, which is the second half. -/
theorem unpad_append {b : Nat} (front : Bytes) {last : Bytes} (hb : b ≤ last.length) :
    unpad (front ++ last) b = (unpad last b).map (front ++ ·) := by
  cases hlast : unpad last b with
  | ok m =>
      obtain ⟨p, hpos, hoctet, hle, rfl⟩ := unpad_eq_ok_iff.mp hlast
      exact unpad_eq_ok_iff.mpr ⟨p, hpos, hoctet, hle, (List.append_assoc ..).symm⟩
  | error e =>
      obtain rfl := unpad_eq_error hlast
      cases hall : unpad (front ++ last) b with
      | error e =>
          rw [unpad_eq_error hall]
          rfl
      | ok m =>
          obtain ⟨p, hpos, hoctet, hle, heq⟩ := unpad_eq_ok_iff.mp hall
          have hlen : (octets p).length ≤ last.length := by rw [length_octets]; omega
          -- the padding is at the end of the whole, and no longer than `last`
          obtain ⟨r, hr⟩ : octets p <:+ last :=
            List.suffix_of_suffix_length_le ⟨m, heq.symm⟩ (List.suffix_append front last) hlen
          have hok := unpad_eq_ok_iff.mpr ⟨p, hpos, hoctet, hle, hr.symm⟩
          rw [hlast] at hok
          cases hok

/-- Whole blocks that end in the same block are refused together or lose the
same padding, whatever the blocks before. -/
theorem unpad_of_block_eq {b j : Nat} {u v : Bytes} (hu : u.length = b * (j + 1))
    (hv : v.length = b * (j + 1)) (h : Bytes.block b j u = Bytes.block b j v) :
    (unpad u b = .error .decryption ∧ unpad v b = .error .decryption)
      ∨ ∃ r, unpad u b = .ok (u.take (b * j) ++ r) ∧ unpad v b = .ok (v.take (b * j) ++ r) := by
  -- take each string apart into the blocks before its last one and that block
  have hsplit {w : Bytes} (hw : w.length = b * (j + 1)) :
      unpad w b = (unpad (Bytes.block b j w) b).map (w.take (b * j) ++ ·) := by
    have hblock : b ≤ (Bytes.block b j w).length := by
      rw [Nat.mul_succ] at hw
      rw [Bytes.block, List.length_take, List.length_drop]
      omega
    rw [← unpad_append (w.take (b * j)) hblock, Bytes.take_append_block hw]
  rw [hsplit hu, hsplit hv, ← h]
  cases hlast : unpad (Bytes.block b j u) b with
  | error e =>
      obtain rfl := unpad_eq_error hlast
      exact Or.inl ⟨rfl, rfl⟩
  | ok r => exact Or.inr ⟨r, rfl, rfl⟩

-- ======================================================= both directions

/-- A padding that was written is removed. -/
theorem unpad_of_pad {b : Nat} (hb : 0 < b) {data x : Bytes} (h : pad data b = .ok x) :
    unpad x b = .ok data := by
  have ⟨hpos, hle⟩ := needed_bounds hb data.length
  rw [pad_eq hb] at h
  split at h
  next hoctet =>
    injection h with hx
    exact unpad_eq_ok_iff.mpr ⟨_, hpos, hoctet, by omega, hx.symm⟩
  · cases h

/-- A padding that is accepted after whole blocks is the one that would be
written: the number it tells is the number needed for what stands before it. -/
theorem pad_of_unpad {b : Nat} {x m : Bytes} (hx : x.length % b = 0)
    (h : unpad x b = .ok m) : pad m b = .ok x := by
  obtain ⟨p, hpos, hoctet, hb, rfl⟩ := unpad_eq_ok_iff.mp h
  have hp : p = needed b m.length := by
    have hmod : (m.length % b + p) % b = 0 := by
      rw [Nat.mod_add_mod, ← length_octets p, ← List.length_append]
      exact hx
    have hlt := Nat.mod_lt m.length (show 0 < b by omega)
    -- the sum is a positive multiple of `b` below twice `b`
    have hquot : (m.length % b + p) / b = 1 := by
      have hdiv := Nat.div_add_mod (m.length % b + p) b
      rw [hmod] at hdiv
      rcases hq : (m.length % b + p) / b with - | - | q
      · rw [hq, Nat.mul_zero] at hdiv
        omega
      · rfl
      · rw [hq] at hdiv
        have hmul : b * 2 ≤ b * (q + 1 + 1) := Nat.mul_le_mul_left b (by omega)
        omega
    have hdiv := Nat.div_add_mod (m.length % b + p) b
    rw [hmod, hquot] at hdiv
    unfold needed
    omega
  rw [pad_eq (by omega), ← hp, if_pos hoctet]

-- ======================================================== all together

/-- Padding for every block size. Up to 255, all data can be padded: between
one octet and a block are added, the result is whole blocks, and removing
the padding gives the data back. Removing answers `m` exactly on `m` with at
most a block of octets that all tell their number, on strings of any length,
and refuses everything else in one way; from whole blocks it takes only what
padding writes. Beyond 255, data can be padded exactly if what is missing is
an octet, and are then given back as well. -/
theorem padding_exact {b : Nat} (hb : 1 ≤ b) :
    (b ≤ 255 →
        (∀ data, ∃ x, pad data b = .ok x ∧ data <+: x ∧ data.length + 1 ≤ x.length
            ∧ x.length ≤ data.length + b ∧ x.length % b = 0 ∧ unpad x b = .ok data)
          ∧ (∀ x m, unpad x b = .ok m
              ↔ ∃ p : Nat, 1 ≤ p ∧ p ≤ b ∧ x = m ++ List.replicate p (UInt8.ofNat p))
          ∧ (∀ x, unpad x b = .error .decryption
              ↔ ∀ (m : Bytes) (p : Nat), 1 ≤ p → p ≤ b →
                  x ≠ m ++ List.replicate p (UInt8.ofNat p))
          ∧ ∀ x m, x.length % b = 0 → unpad x b = .ok m → pad m b = .ok x)
      ∧ (255 < b → ∀ data,
          ((∃ x, pad data b = .ok x) ↔ b - data.length % b ≤ 255)
            ∧ ∀ x, pad data b = .ok x → unpad x b = .ok data) := by
  refine ⟨fun hoctet => ⟨?_, fun x m => unpad_eq_ok_iff_of_le hoctet, ?_,
    fun x m hx h => pad_of_unpad hx h⟩,
    fun _ data => ⟨exists_pad_iff hb data, fun x h => unpad_of_pad hb h⟩⟩
  · -- writing, and what it has written is removed
    intro data
    have ⟨_, hle⟩ := needed_bounds hb data.length
    obtain ⟨x, hx⟩ := (exists_pad_iff hb data).2 (Nat.le_trans hle hoctet)
    obtain ⟨hfront, hmin, hmax, hwhole⟩ := length_of_pad hb hx
    exact ⟨x, hx, hfront, hmin, hmax, hwhole, unpad_of_pad hb hx⟩
  · -- the refusals are the complement of what is accepted
    intro x
    simp only [unpad_eq_error_iff, ne_eq, unpad_eq_ok_iff_of_le hoctet, octets, not_exists, not_and]

/-- The largest block size that is an octet, and one above it, for which a
single octet is too short and forty-five are not. -/
theorem padding_exact_octet :
    (∃ x, pad [7] (255 : Nat) = .ok x ∧ x.length % 255 = 0 ∧ unpad x (255 : Nat) = .ok [7])
      ∧ ¬ (∃ x, pad [7] (300 : Nat) = .ok x)
      ∧ ∃ x, pad (List.replicate 45 7) (300 : Nat) = .ok x
          ∧ unpad x (300 : Nat) = .ok (List.replicate 45 7) := by
  obtain ⟨hsmall, -⟩ := padding_exact (b := 255) (by decide)
  obtain ⟨-, hlarge⟩ := padding_exact (b := 300) (by decide)
  obtain ⟨hpad, -⟩ := hsmall (by decide)
  obtain ⟨x, hx, -, -, -, hwhole, hback⟩ := hpad [7]
  obtain ⟨hfits, hremoved⟩ := hlarge (by decide) (List.replicate 45 7)
  obtain ⟨y, hy⟩ := hfits.2 (by decide)
  refine ⟨⟨x, hx, hwhole, hback⟩, fun h => ?_, y, hy, hremoved y hy⟩
  exact absurd ((hlarge (by decide) [7]).1.1 h) (by decide)

end Pkcs12.Padding
