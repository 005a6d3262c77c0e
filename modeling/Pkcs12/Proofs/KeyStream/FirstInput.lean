/-
What is hashed first, and that nothing is merged before it is hashed.

# The string and its parts

A derivation first hashes the diversifier, the filled salt and the filled
password, one after the other. Their lengths are known for salts of one
length, so the string can be cut at the right places
(`parts_of_firstInput`): the diversifier names the purpose, and salts of one
length are filled differently.

# Passwords

Filling repeats a string and so could make equal strings of different ones:
`ab` and `abab` fill four octets alike. It does not for passwords, since a
password begins what it fills and says itself where it ends, by a closing
unit of two null octets that no other unit of it equals. `octets_append_inj`
states that with something behind both passwords, which is how a filled
string gives them; the induction is on one text with the other generalised,
and the two cases where one of them has already ended are
`octets_nil_append_ne`.

A text with a null character of its own is the exception: its unit looks like
the closing one. The example at the end of the file is such a pair of texts.
-/
import Pkcs12.Password
import Pkcs12.Proofs.KeyStream.Stream

namespace Pkcs12

-- ========================================================== passwords

namespace Password

/-- A point of the plane is the number of its two octets, so different points have
different units. -/
private theorem unit_inj {c d : CodePoint} (hc : c.val ≤ 0xFFFF) (hd : d.val ≤ 0xFFFF)
    (h : unit c = unit d) : c = d := by
  simp only [unit, List.cons.injEq, and_true] at h
  obtain ⟨hhigh, hlow⟩ := h
  have hhigh := congrArg UInt8.toNat hhigh
  have hlow := congrArg UInt8.toNat hlow
  simp only [UInt8.toNat_ofNat'] at hhigh hlow
  apply Fin.ext
  omega

private theorem eq_zero_of_unit {c : CodePoint} (hc : c.val ≤ 0xFFFF) (h : unit c = [0, 0]) :
    c = 0 :=
  unit_inj hc (Nat.zero_le _) h

private theorem octets_nil : octets [] = [0, 0] := rfl

private theorem octets_cons (c : CodePoint) (t : Text) : octets (c :: t) = unit c ++ octets t := by
  rw [octets, List.flatMap_cons, List.append_assoc, octets]

/-- A password does not close where another has a character, unless that is
a null character. -/
private theorem octets_nil_append_ne {c : CodePoint} {t : Text} (hc : c.val ≤ 0xFFFF)
    (hnull : 0 ∉ c :: t) (rest rest' : Bytes) :
    octets [] ++ rest ≠ octets (c :: t) ++ rest' := by
  intro h
  rw [octets_nil, octets_cons, List.append_assoc] at h
  have hunit := (List.append_inj h rfl).1
  rw [eq_zero_of_unit hc hunit.symm] at hnull
  exact hnull List.mem_cons_self

/-- Texts without a null character are found again at the front of any octets that
begin with their passwords. The octets behind need not be equal, nor of one
length. -/
theorem octets_append_inj {t t' : Text} (ht : ∀ c ∈ t, c.val ≤ 0xFFFF)
    (ht' : ∀ c ∈ t', c.val ≤ 0xFFFF) (hnull : 0 ∉ t) (hnull' : 0 ∉ t') {rest rest' : Bytes}
    (h : octets t ++ rest = octets t' ++ rest') : t = t' := by
  induction t generalizing t' with
  | nil =>
      cases t' with
      | nil => rfl
      | cons c' r' =>
          exact absurd h (octets_nil_append_ne (ht' c' List.mem_cons_self) hnull' rest rest')
  | cons c r ih =>
      cases t' with
      | nil =>
          exact absurd h.symm (octets_nil_append_ne (ht c List.mem_cons_self) hnull rest' rest)
      | cons c' r' =>
          rw [octets_cons, octets_cons, List.append_assoc, List.append_assoc] at h
          -- units are of one length, so what follows the first ones is compared as well
          obtain ⟨hunit, htail⟩ := List.append_inj h rfl
          have hc := unit_inj (ht c List.mem_cons_self) (ht' c' List.mem_cons_self) hunit
          have hr := ih (fun x hx => ht x (List.mem_cons_of_mem _ hx))
            (fun x hx => ht' x (List.mem_cons_of_mem _ hx))
            (fun hx => hnull (List.mem_cons_of_mem _ hx))
            (fun hx => hnull' (List.mem_cons_of_mem _ hx)) htail
          rw [hc, hr]

/-- A password that is accepted is made of points of the plane, which is what
`unit_inj` asks of both texts. -/
private theorem encode_eq_ok {t : Text} {p : Bytes} (h : encode t = .ok p) :
    (∀ c ∈ t, c.val ≤ 0xFFFF) ∧ p = octets t := by
  rw [encode] at h
  split at h
  · cases h
  next hplane =>
    split at h
    · cases h
    · cases h
      refine ⟨fun c hc => Nat.not_lt.1 fun habove => hplane ?_, rfl⟩
      exact List.any_eq_true.2 ⟨c, hc, decide_eq_true habove⟩

end Password

-- ======================================================== the key stream

namespace KeyStream

private theorem octet_inj {purpose purpose' : Purpose} (h : purpose.octet = purpose'.octet) :
    purpose = purpose' := by
  cases purpose <;> cases purpose' <;> first | rfl | exact absurd h (by decide)

/-- The parts of a first input are found by their lengths: those of the
diversifiers are the block size, and those of the filled salts are equal as
the salts are of one length. -/
private theorem parts_of_firstInput {v : Nat} (hv : 0 < v) {purpose purpose' : Purpose}
    {salt salt' password password' : Bytes} (hl : salt.length = salt'.length)
    (h : firstInput v purpose salt password = firstInput v purpose' salt' password') :
    purpose = purpose' ∧ salt = salt' ∧ fill v password = fill v password' := by
  have hdiversifier : (diversifier v purpose).length = (diversifier v purpose').length := by
    rw [diversifier, diversifier, List.length_replicate, List.length_replicate]
  have hsalt : (fill v salt).length = (fill v salt').length := by
    rw [length_fill, length_fill, hl]
  obtain ⟨hd, hi⟩ := List.append_inj h hdiversifier
  obtain ⟨hs, hp⟩ := List.append_inj hi hsalt
  obtain ⟨-, hzero | hoctet⟩ := List.replicate_inj.1 hd
  · omega
  · exact ⟨octet_inj hoctet, fill_inj hv hl hs, hp⟩

/-- A derived string begins with the hash of its first input, or is a beginning of
it if less was asked for. So first inputs that differ are told apart by the
hash or not at all. -/
private theorem take_derive (h : Hash) (v : Nat) (salt password : Bytes) {iterations : Nat}
    (hpos : 1 ≤ iterations) (purpose : Purpose) (length : Nat) :
    (derive h v salt password iterations purpose length).take h.digestSize
      = (h.iterate iterations (firstInput v purpose salt password)).take length := by
  obtain ⟨extra, rfl⟩ : ∃ extra, iterations = extra + 1 := ⟨iterations - 1, by omega⟩
  have hlen := Hash.length_iterate_succ h extra (diversifier v purpose ++ initial v salt password)
  rw [derive, firstInput, Nat.add_sub_cancel]
  by_cases hle : length ≤ h.digestSize
  · rw [stream_of_le hle, List.take_take, Nat.min_eq_right hle]
  · have hlt := Nat.lt_of_not_le hle
    rw [stream_of_lt hlt, List.take_left' hlen, List.take_of_length_le (by omega)]

/-- Nothing is merged before it is hashed. Every derived string begins with
the iterated hash of its first input. For hash blocks of some size, salts of
one length and texts without a null character that make passwords, first
inputs are equal only if the purposes, the salts and the texts are. -/
theorem firstInput_eq_iff {v : Nat} (hv : 1 ≤ v) {purpose purpose' : Purpose}
    {salt salt' : Bytes} (hl : salt.length = salt'.length) {t t' : Text} {p p' : Bytes}
    (ht : Password.encode t = .ok p) (ht' : Password.encode t' = .ok p') (hnull : 0 ∉ t)
    (hnull' : 0 ∉ t') :
    (firstInput v purpose salt p = firstInput v purpose' salt' p'
        ↔ purpose = purpose' ∧ salt = salt' ∧ t = t')
      ∧ ∀ (h : Hash) (iterations length : Nat), 1 ≤ iterations →
          (derive h v salt p iterations purpose length).take h.digestSize
            = (h.iterate iterations (firstInput v purpose salt p)).take length := by
  obtain ⟨hplane, rfl⟩ := Password.encode_eq_ok ht
  obtain ⟨hplane', rfl⟩ := Password.encode_eq_ok ht'
  refine ⟨⟨?_, ?_⟩, fun h iterations length hpos => take_derive h v salt _ hpos purpose length⟩
  · -- a filled password begins with the password, which is found again there
    intro heq
    obtain ⟨hpurpose, hsalt, hfill⟩ := parts_of_firstInput hv hl heq
    obtain ⟨rest, hrest⟩ := prefix_fill hv (Password.octets t)
    obtain ⟨rest', hrest'⟩ := prefix_fill hv (Password.octets t')
    rw [← hrest, ← hrest'] at hfill
    exact ⟨hpurpose, hsalt, Password.octets_append_inj hplane hplane' hnull hnull' hfill⟩
  · rintro ⟨rfl, rfl, rfl⟩
    rfl

/-- A letter and the same letter twice: in hash blocks of four octets the
second password is what the first one begins, and yet they fill them
differently. -/
theorem firstInput_ne_of_repeated :
    Password.encode [0x61] = .ok [0, 0x61, 0, 0]
      ∧ Password.encode [0x61, 0x61] = .ok [0, 0x61, 0, 0x61, 0, 0]
      ∧ firstInput 4 .key [7] [0, 0x61, 0, 0] ≠ firstInput 4 .key [7] [0, 0x61, 0, 0x61, 0, 0] := by
  have honce : Password.encode [0x61] = .ok [0, 0x61, 0, 0] := rfl
  have htwice : Password.encode [0x61, 0x61] = .ok [0, 0x61, 0, 0x61, 0, 0] := rfl
  refine ⟨honce, htwice, fun h => ?_⟩
  obtain ⟨hiff, -⟩ := @firstInput_eq_iff 4 (by decide) .key .key [7] [7] rfl _ _ _ _ honce htwice
    (by decide) (by decide)
  obtain ⟨-, -, htext⟩ := hiff.1 h
  exact absurd htext (by decide)

-- with a null character between them the two letters do look like one
example : firstInput 8 .key [7] (Password.octets [0x61])
    = firstInput 8 .key [7] (Password.octets [0x61, 0, 0x61]) := by decide

end KeyStream

end Pkcs12
