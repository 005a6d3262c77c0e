/-
Triple DES is a permutation of blocks under every key.

# Shape of the argument

Three facts about one pass, none of which looks at the substitutions or at the
key schedule:

- the bits of eight octets are read back as these octets, and the other way
  round (`Bits.toBytes_ofBytes`, `Bits.ofBytes_toBytes`);
- the initial and the final permutation are tables that undo each other, which
  is one evaluation of the composed tables each (`select_initial_final`,
  `select_final_initial`);
- the network undoes itself with its keys reversed, whatever the round
  function is (`Feistel.run_reverse_run`).

So a pass is undone by the pass with the reversed round keys
(`crypt_reverse_crypt`), and, as reversing twice changes nothing, also in the
other order (`crypt_crypt_reverse`). Triple DES runs its second pass
backwards, so both orders occur in either direction; the passes are undone
one by one, the last one first.

# Bits and octets

That an octet is made of its bits is checked on all 256 octets and on all
eight-tuples of bits by evaluation. The tuples are bound as eight booleans
and not as a function, since those can be run through.
-/
import Pkcs12.Cipher.TripleDes

namespace Pkcs12

-- ======================================================= bits and octets

namespace Bits

private theorem toOctet_ofOctet (b : UInt8) : toOctet (ofOctet b) = b := by
  have hall : ∀ n : Fin 256, toOctet (ofOctet (UInt8.ofNat n.val)) = UInt8.ofNat n.val := by
    decide +kernel
  have h := hall ⟨b.toNat, b.toNat_lt⟩
  rw [UInt8.ofNat_toNat] at h
  exact h

/-- An octet made of bits has these bits. Only the first eight values of `bit`
matter, so they are taken out of the function before the evaluation. -/
private theorem ofOctet_toOctet (bit : Nat → Bool) {k : Nat} (hk : k < 8) :
    ofOctet (toOctet bit) k = bit k := by
  have hall : ∀ b₀ b₁ b₂ b₃ b₄ b₅ b₆ b₇ : Bool, ∀ i : Fin 8,
      ofOctet (toOctet fun j => [b₀, b₁, b₂, b₃, b₄, b₅, b₆, b₇].getD j false) i.val
        = [b₀, b₁, b₂, b₃, b₄, b₅, b₆, b₇].getD i.val false := by
    decide +kernel
  have h := hall (bit 0) (bit 1) (bit 2) (bit 3) (bit 4) (bit 5) (bit 6) (bit 7) ⟨k, hk⟩
  -- back from the list of the eight bits to the function
  have hbits : ∀ j < 8, [bit 0, bit 1, bit 2, bit 3, bit 4, bit 5, bit 6, bit 7].getD j false
      = bit j := by
    intro j hj
    match j, hj with
    | 0, _ | 1, _ | 2, _ | 3, _ | 4, _ | 5, _ | 6, _ | 7, _ => rfl
  rw [hbits k hk] at h
  exact h

private theorem toOctet_congr {f g : Nat → Bool} (h : ∀ k < 8, f k = g k) :
    toOctet f = toOctet g := by
  have hrange : List.range 8 = [0, 1, 2, 3, 4, 5, 6, 7] := rfl
  simp only [toOctet, hrange, List.foldl_cons, List.foldl_nil, h 0 (by decide), h 1 (by decide),
    h 2 (by decide), h 3 (by decide), h 4 (by decide), h 5 (by decide), h 6 (by decide),
    h 7 (by decide)]

/-- Bit `k` of octet `j` of a string of eight octets: the highest bit of the first
octet comes first. -/
private theorem getD_ofBytes (b : Bytes) {j k : Nat} (hj : j < 8) (hk : k < 8) :
    (ofBytes b).toArray.getD (8 * j + k) false = ofOctet (b.getD j 0) k := by
  have hi : 8 * j + k < 64 := by omega
  have hdiv : (8 * j + k) / 8 = j := by omega
  have hmod : (8 * j + k) % 8 = k := by omega
  rw [Array.getD_eq_getD_getElem?, Vector.getElem?_toArray, Vector.getElem?_eq_getElem hi,
    Option.getD_some]
  simp only [ofBytes, Vector.getElem_ofFn, hdiv, hmod]
  rw [Array.getD_eq_getD_getElem?, List.getElem?_toArray, ← List.getD_eq_getElem?_getD]

theorem toBytes_ofBytes {b : Bytes} (hb : b.length = 8) : toBytes (ofBytes b) = b := by
  apply List.ext_getElem
  · rw [length_toBytes, hb]
  · intro j hj hjb
    have hj8 : j < 8 := by rw [← hb]; exact hjb
    simp only [toBytes, List.getElem_map, List.getElem_range]
    rw [toOctet_congr fun k hk => getD_ofBytes b hj8 hk, toOctet_ofOctet,
      List.getD_eq_getElem?_getD, List.getElem?_eq_getElem hjb, Option.getD_some]

theorem ofBytes_toBytes (x : Bits 64) : ofBytes (toBytes x) = x := by
  ext i hi
  have hj : i / 8 < 8 := by omega
  have hjb : i / 8 < (toBytes x).length := by rw [length_toBytes]; exact hj
  -- position i of the bits is bit i % 8 of octet i / 8
  have hsum : 8 * (i / 8) + i % 8 = i := Nat.div_add_mod i 8
  simp only [ofBytes, Vector.getElem_ofFn]
  rw [Array.getD_eq_getD_getElem?, List.getElem?_toArray, List.getElem?_eq_getElem hjb,
    Option.getD_some]
  simp only [toBytes, List.getElem_map, List.getElem_range]
  rw [ofOctet_toOctet _ (Nat.mod_lt i (by decide)), hsum, Array.getD_eq_getD_getElem?,
    Vector.getElem?_toArray, Vector.getElem?_eq_getElem hi, Option.getD_some]

end Bits

-- ============================================================== one pass

namespace Des

theorem join_split (x : Bits 64) : join (split x) = x := by
  ext i hi
  rw [join, Vector.getElem_append]
  split
  next hlow => simp only [Des.split, Vector.getElem_ofFn]
  next hhigh =>
    simp only [Des.split, Vector.getElem_ofFn]
    congr 1
    omega

theorem split_join (h : Feistel.Halves 32) : split (join h) = h := by
  cases h with
  | mk left right =>
      rw [Des.split, Feistel.Halves.mk.injEq]
      constructor
      · ext i hi
        rw [Vector.getElem_ofFn, join, Vector.getElem_append_left hi]
      · ext i hi
        rw [Vector.getElem_ofFn, join, Vector.getElem_append_right (by omega) (by omega)]
        simp

theorem select_initial_final (x : Bits 64) :
    Bits.select initialTable (Bits.select finalTable x) = x :=
  Bits.select_select (by decide +kernel) x

theorem select_final_initial (x : Bits 64) :
    Bits.select finalTable (Bits.select initialTable x) = x :=
  Bits.select_select (by decide +kernel) x

/-- The reversed round keys undo a pass: the outer tables cancel in the middle,
then the halves, then the network. -/
theorem crypt_reverse_crypt (keys : List (Bits 48)) (x : Bits 64) :
    crypt keys.reverse (crypt keys x) = x := by
  rw [crypt, crypt, select_initial_final, split_join, Feistel.run_reverse_run, join_split,
    select_final_initial]

/-- A pass undoes the one with the reversed round keys, which is the same law for
the reversed list. -/
theorem crypt_crypt_reverse (keys : List (Bits 48)) (x : Bits 64) :
    crypt keys (crypt keys.reverse x) = x := by
  have h := crypt_reverse_crypt keys.reverse x
  rw [List.reverse_reverse] at h
  exact h

end Des

-- ============================================================ three passes

namespace TripleDes

/-- Triple DES is a permutation of blocks under every key, those that are refused
included: degenerate keys are weak, but they can be undone as well. -/
theorem isPermutation_keyed (k₁ k₂ k₃ : Bytes) : (keyed k₁ k₂ k₃).IsPermutation where
  length_forward _ _ := Bits.length_toBytes _
  length_backward _ _ := Bits.length_toBytes _
  backward_forward b hb := by
    show Bits.toBytes (Des.crypt _ (Des.crypt _ (Des.crypt _ (Bits.ofBytes (Bits.toBytes _))))) = b
    rw [Bits.ofBytes_toBytes, Des.crypt_reverse_crypt, Des.crypt_crypt_reverse,
      Des.crypt_reverse_crypt, Bits.toBytes_ofBytes hb]
  forward_backward b hb := by
    show Bits.toBytes (Des.crypt _ (Des.crypt _ (Des.crypt _ (Bits.ofBytes (Bits.toBytes _))))) = b
    rw [Bits.ofBytes_toBytes, Des.crypt_crypt_reverse, Des.crypt_reverse_crypt,
      Des.crypt_crypt_reverse, Bits.toBytes_ofBytes hb]

end TripleDes

end Pkcs12
