/-
Answers of two named octet strings in hexadecimal: what is printed determines
both.

# Design

An answer has two forms. As lines, each value runs from behind an equals sign
to a line feed; as a record, it stands between quotation marks. The two
lemmas on `toList` write both forms out character by character, with the
digits of each value as one block and the character behind them in plain
sight. That character is no digit, so `Hex.encode_append_inj` reads a value
and what follows it off such a list at once. The names need no assumption:
both answers have the same ones, and they cancel.

The record has one step more. Its strings are quoted, and quoting may replace
characters; but digits stand for themselves (`Json.quote_toHex`).
-/
import Pkcs12.Cli.Run
import Pkcs12.Proofs.Text.Hex

namespace Pkcs12

/-- The digits of octets stand for themselves between quotation marks, since no
digit is a character that has to be escaped. -/
private theorem Json.quote_toHex (b : Bytes) :
    quote (Text.ofString b.toHex) = '"' :: (Hex.encode b ++ ['"']) := by
  -- there are sixteen digits, and each can be looked at
  have hdigit : ∀ n < 16, escape (CodePoint.ofChar (Hex.digit n)) = [Hex.digit n] := by decide
  have hescape : ∀ cs : List Char, (∀ c ∈ cs, escape (CodePoint.ofChar c) = [c]) →
      (cs.map CodePoint.ofChar).flatMap escape = cs := by
    intro cs h
    induction cs with
    | nil => rfl
    | cons c cs ih =>
        rw [List.map_cons, List.flatMap_cons, h c List.mem_cons_self,
          ih fun d hd => h d (List.mem_cons_of_mem c hd), List.singleton_append]
  rw [quote, Text.ofString, Bytes.toList_toHex, hescape _ (Hex.forall_mem_encode hdigit b)]
  rfl

namespace Cli.Answer

variable (name name' : String) (a b : Bytes)

/-- The answer that names two octet strings and gives both in hexadecimal. -/
def octets : Answer :=
  .fields [(name, a.toHex), (name', b.toHex)]

/-- As lines: each value runs up to a line feed. -/
private theorem toList_render_lines :
    ((octets name name' a b).render false).toList
      = name.toList ++ '=' :: (Hex.encode a ++ '\n' ::
          (name'.toList ++ '=' :: (Hex.encode b ++ '\n' :: []))) := by
  simp [octets, render, closeLines, Bytes.toList_toHex]

/-- As a record: each value runs up to a quotation mark. -/
private theorem toList_render_record :
    ((octets name name' a b).render true).toList
      = '\x7b' :: (Json.quote (Text.ofString name)
          ++ ':' :: ' ' :: '"' :: (Hex.encode a ++ '"' :: ',' :: ' ' ::
            (Json.quote (Text.ofString name')
              ++ ':' :: ' ' :: '"' :: (Hex.encode b ++ '"' :: ['\x7d', '\n'])))) := by
  simp [octets, render, Json.compact, Json.line, Json.lineMembers, Json.record, Json.str,
    Json.quote_toHex]

variable {name name' a b}

/-- What is printed for two octet strings, in either form, is printed for no other
two under the same names. -/
theorem render_octets_injective {json : Bool} {a' b' : Bytes}
    (h : (octets name name' a b).render json = (octets name name' a' b').render json) :
    a = a' ∧ b = b' := by
  have hlist := congrArg String.toList h
  cases json with
  | false =>
      rw [toList_render_lines, toList_render_lines] at hlist
      -- the names are the same, so the first difference is in a value
      have hvalue := (List.cons.inj (List.append_cancel_left hlist)).2
      obtain ⟨ha, hrest⟩ := Hex.encode_append_inj (by decide) hvalue
      have hvalue' := (List.cons.inj (List.append_cancel_left hrest)).2
      exact ⟨ha, (Hex.encode_append_inj (by decide) hvalue').1⟩
  | true =>
      rw [toList_render_record, toList_render_record, List.cons.injEq] at hlist
      have hvalue := List.append_cancel_left hlist.2
      simp only [List.cons.injEq, true_and] at hvalue
      obtain ⟨ha, hrest⟩ := Hex.encode_append_inj (by decide) hvalue
      simp only [List.cons.injEq, true_and] at hrest
      have hvalue' := List.append_cancel_left hrest
      simp only [List.cons.injEq, true_and] at hvalue'
      exact ⟨ha, (Hex.encode_append_inj (by decide) hvalue').1⟩

end Cli.Answer

end Pkcs12
