/-
Hexadecimal text is read as the octets it was written from.

# Digits and texts

Everything about the sixteen digits is decided by running through them
(`value?_digit`), and what holds of all digits holds of every character of a
text (`forall_mem_encode`). That is how it is seen that a text has nothing in
it with a meaning of its own where it is put: no quote in a string, no
separator in a line.

Reading a text also skips white space between the octets. Writing leaves
none, so the law is one-sided: reading undoes writing (`decode_encode`), and
different octets have different texts (`encode_injective`). A text that ends
with a stop which is no digit is told from whatever stands behind it
(`encode_append_inj`), which is what a record of several texts needs.
-/
import Pkcs12.Text.Hex

namespace Pkcs12

namespace Hex

/-- The digit of a value has this value, and is not taken for a gap between
octets. -/
private theorem value?_digit : ∀ n < 16, value? (CodePoint.ofChar (digit n)) = some n
    ∧ (CodePoint.ofChar (digit n)).isAsciiBlank = false := by
  decide

/-- What holds of all digits holds of every character of the text. -/
theorem forall_mem_encode {p : Char → Prop} (h : ∀ n < 16, p (digit n)) (b : Bytes) :
    ∀ c ∈ encode b, p c := by
  intro c hc
  obtain ⟨x, -, hx⟩ := List.mem_flatMap.1 hc
  have hlt := x.toNat_lt
  rw [pair, List.mem_cons, List.mem_singleton] at hx
  rcases hx with rfl | rfl
  · exact h _ (by omega)
  · exact h _ (by omega)

/-- Reading undoes writing, octet by octet: two digits are the quotient and the
remainder by sixteen. -/
theorem decode_encode (b : Bytes) : decode ((encode b).map CodePoint.ofChar) = some b := by
  induction b with
  | nil => rfl
  | cons x b ih =>
      have hlt := x.toNat_lt
      obtain ⟨hhigh, hgap⟩ := value?_digit (x.toNat / 16) (by omega)
      obtain ⟨hlow, -⟩ := value?_digit (x.toNat % 16) (by omega)
      have hoctet : UInt8.ofNat (16 * (x.toNat / 16) + x.toNat % 16) = x := by
        rw [Nat.div_add_mod, UInt8.ofNat_toNat]
      rw [encode, List.flatMap_cons, ← encode, pair, List.cons_append, List.singleton_append,
        List.map_cons, List.map_cons, decode, hgap, if_neg Bool.false_ne_true, hhigh, hlow, ih]
      exact congrArg (fun y => some (y :: b)) hoctet

/-- No two octet strings have the same text. -/
theorem encode_injective {a b : Bytes} (h : encode a = encode b) : a = b := by
  have hdecode := decode_encode a
  rw [h, decode_encode b] at hdecode
  exact (Option.some.inj hdecode).symm

/-- What ends with a character that is no digit is told from what stands behind
it: the digits in front are those up to the first such character. -/
theorem encode_append_inj {stop : Char} (hstop : ∀ n < 16, digit n ≠ stop) {a b : Bytes}
    {rest rest' : List Char} (h : encode a ++ stop :: rest = encode b ++ stop :: rest') :
    a = b ∧ rest = rest' := by
  have hfront (c : Bytes) (rest : List Char) :
      (encode c ++ stop :: rest).takeWhile (· ≠ stop) = encode c := by
    rw [List.takeWhile_append_of_pos (by simpa using forall_mem_encode hstop c),
      List.takeWhile_cons_of_neg (by simp), List.append_nil]
  have hencode := congrArg (List.takeWhile (· ≠ stop)) h
  rw [hfront, hfront] at hencode
  rw [hencode] at h
  exact ⟨encode_injective hencode, (List.cons.inj (List.append_cancel_left h)).2⟩

end Hex

namespace Bytes

theorem toList_toHex (b : Bytes) : b.toHex.toList = Hex.encode b :=
  String.toList_ofList

/-- The text of an octet string is read as that string. -/
theorem decode_toHex (b : Bytes) : Hex.decode (Text.ofString b.toHex) = some b := by
  rw [Text.ofString, toList_toHex, Hex.decode_encode]

end Bytes

end Pkcs12
