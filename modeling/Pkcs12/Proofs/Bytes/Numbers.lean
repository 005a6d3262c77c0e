/-
Big-endian numbers: octet strings of length `v` and the numbers below
`256 ^ v` are the same thing, and `ofNat v` reduces every other number to one
of these.

# Digits

`toNat` reads from the first octet on, so its recursion has the highest digit
in hand, while `ofNat` makes the lowest digit first and reverses. The laws
that connect them go by the lowest digit: `toNat_concat` for reading and
`ofNat_succ` for writing have it in the last place, and the inductions on a
string are from its end. Together they give `toNat_ofNat` (writing keeps the
number modulo `256 ^ v`) and `ofNat_toNat` (a string is determined by its
length and its number).

# Sums

`addSucc` is the schoolbook sum of two strings and one, octet by octet from
the end with a carry, and what is carried out of the first octet is lost. The
invariant of that loop is `addOctets_eq`: the octets made so far, with the
carry, are the octets of the sum of what has been added. Hence `addSucc_eq`,
the sum modulo `256 ^ v` whatever was carried along the way, and this is all
that the update of a working string uses of it.
-/
import Pkcs12.Bytes

namespace Pkcs12.Bytes

-- ============================================================ reading

/-- Reading goes on from what has been read, which moves up by as many places as
there are octets. -/
private theorem foldl_eq_toNat (b : Bytes) (n : Nat) :
    b.foldl (fun n x => 256 * n + x.toNat) n = 256 ^ b.length * n + toNat b := by
  induction b generalizing n with
  | nil => simp [toNat]
  | cons x b ih =>
      rw [toNat, List.foldl_cons, List.foldl_cons, ih, ih (256 * 0 + x.toNat), List.length_cons,
        Nat.pow_succ, Nat.mul_add, Nat.mul_add, Nat.mul_assoc]
      omega

theorem toNat_append (a b : Bytes) : toNat (a ++ b) = 256 ^ b.length * toNat a + toNat b := by
  rw [toNat, List.foldl_append, foldl_eq_toNat b]
  rfl

/-- The last octet is the lowest digit. -/
theorem toNat_concat (b : Bytes) (x : UInt8) : toNat (b ++ [x]) = 256 * toNat b + x.toNat := by
  rw [toNat_append]
  simp [toNat]

theorem toNat_cons (x : UInt8) (b : Bytes) :
    toNat (x :: b) = 256 ^ b.length * x.toNat + toNat b := by
  rw [← List.singleton_append, toNat_append]
  simp [toNat]

theorem toNat_lt (b : Bytes) : toNat b < 256 ^ b.length := by
  induction b with
  | nil => decide
  | cons x b ih =>
      have hx : x.toNat < 256 := x.toNat_lt
      have hmul : 256 ^ b.length * x.toNat ≤ 256 ^ b.length * 255 :=
        Nat.mul_le_mul_left _ (by omega)
      rw [toNat_cons, List.length_cons, Nat.pow_succ]
      omega

-- ============================================================ writing

/-- One octet more is the lowest digit in the last place, and the places before
it hold the quotient. -/
theorem ofNat_succ (v n : Nat) : ofNat (v + 1) n = ofNat v (n / 256) ++ [UInt8.ofNat n] := by
  rw [ofNat, littleEndian, List.reverse_cons, ofNat]

/-- Writing cuts a number down to its lowest octets. -/
theorem toNat_ofNat (v n : Nat) : toNat (ofNat v n) = n % 256 ^ v := by
  induction v generalizing n with
  | zero =>
      rw [Nat.pow_zero, Nat.mod_one]
      rfl
  | succ v ih =>
      have hpow : 256 ^ (v + 1) = 256 * 256 ^ v := by rw [Nat.pow_succ, Nat.mul_comm]
      rw [ofNat_succ, toNat_concat, ih, UInt8.toNat_ofNat', hpow, Nat.mod_mul]
      omega

/-- Octets are determined by their number and the number they denote. So two
strings of one length that read alike are equal. -/
theorem ofNat_toNat (b : Bytes) : ofNat b.length (toNat b) = b := by
  -- induction from the end, where the lowest digit stands
  obtain ⟨r, rfl⟩ : ∃ r : Bytes, b = r.reverse := ⟨b.reverse, b.reverse_reverse.symm⟩
  induction r with
  | nil => rfl
  | cons x r ih =>
      have hx : x.toNat < 256 := x.toNat_lt
      have hdiv : (256 * toNat r.reverse + x.toNat) / 256 = toNat r.reverse := by omega
      have hlow : UInt8.ofNat (256 * toNat r.reverse + x.toNat) = x := by
        apply UInt8.toNat_inj.mp
        rw [UInt8.toNat_ofNat']
        omega
      rw [List.reverse_cons, List.length_append, List.length_singleton, toNat_concat, ofNat_succ,
        hdiv, ih, hlow]

/-- Only the number modulo `256 ^ v` is written. -/
theorem ofNat_mod (v n : Nat) : ofNat v (n % 256 ^ v) = ofNat v n := by
  have h := ofNat_toNat (ofNat v n)
  rw [length_ofNat, toNat_ofNat] at h
  exact h

-- ================================================================ sums

/-- What is carried into the next place is the quotient by 256. The octets are
least significant first here, so a number is read from their reverse; the
second string may be longer, since its upper octets cannot reach down into
the places of the first. -/
private theorem addOctets_eq (xs ys : Bytes) (h : xs.length ≤ ys.length) (carry : Nat)
    (acc : Bytes) :
    addOctets carry acc xs ys
      = ofNat xs.length (toNat xs.reverse + toNat ys.reverse + carry) ++ acc := by
  induction xs generalizing ys carry acc with
  | nil => cases ys <;> rfl
  | cons x xs ih =>
      cases ys with
      | nil => simp at h
      | cons y ys =>
          have hle : xs.length ≤ ys.length := by simpa using h
          -- the sum of both numbers splits into its lowest digit, which is written,
          -- and the quotient, which is what the rest of the loop adds up
          have hcarry : (256 * toNat xs.reverse + x.toNat + (256 * toNat ys.reverse + y.toNat)
              + carry) / 256
              = toNat xs.reverse + toNat ys.reverse + (x.toNat + y.toNat + carry) / 256 := by
            omega
          have hlow : UInt8.ofNat (256 * toNat xs.reverse + x.toNat
              + (256 * toNat ys.reverse + y.toNat) + carry)
              = UInt8.ofNat (x.toNat + y.toNat + carry) := by
            apply UInt8.toNat_inj.mp
            rw [UInt8.toNat_ofNat', UInt8.toNat_ofNat']
            omega
          rw [addOctets, ih ys hle, List.length_cons, List.reverse_cons, List.reverse_cons,
            toNat_concat, toNat_concat, ofNat_succ, hcarry, hlow, List.append_assoc,
            List.singleton_append]

/-- The sum and one, modulo the numbers that the first operand has room
for. -/
theorem addSucc_eq {a b : Bytes} (h : a.length ≤ b.length) :
    addSucc a b = ofNat a.length (toNat a + toNat b + 1) := by
  rw [addSucc, addOctets_eq _ _ (by simpa using h), List.length_reverse, List.reverse_reverse,
    List.reverse_reverse, List.append_nil]

end Pkcs12.Bytes
