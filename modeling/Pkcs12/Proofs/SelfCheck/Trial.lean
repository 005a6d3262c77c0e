/-
What a trial of the self-checks draws. Whatever the generator answers, the
salt has eight octets and the plaintext is shorter than four blocks.

# Why bounds and nothing else

The checks are proved under any generator, so nothing can be known of the
octets that it draws. But how many are drawn is fixed, or is itself drawn
below a bound that is part of the call, and the result of such a draw is a
number with a proof of that bound. Lengths are therefore known, and they are
what the encoding of a salt and the size of a ciphertext ask for.
-/
import Pkcs12.SelfCheck.Trial

namespace Pkcs12

variable {σ : Type}

namespace Generator

private theorem length_times {α : Type} (one : Draw σ α) (n : Nat) (state : σ) :
    (times one n state).1.length = n := by
  induction n generalizing state with
  | zero => rfl
  | succ n ih => exact congrArg (· + 1) (ih _)

theorem length_octets (g : Generator σ) (n : Nat) (state : σ) : (g.octets n state).1.length = n :=
  length_times _ n state

end Generator

namespace SelfCheck

theorem length_salt_drawTrial (g : Generator σ) (scheme : Scheme) (state : σ) :
    (drawTrial g scheme state).1.salt.length = 8 :=
  Generator.length_octets g 8 state

/-- A plaintext is shorter than four blocks. -/
theorem length_plaintext_lt (g : Generator σ) (scheme : Scheme) (state : σ) :
    (drawTrial g scheme state).1.plaintext.length < 32 := by
  show (g.octets _ _).1.length < 32
  rw [Generator.length_octets]
  exact Fin.isLt _

end SelfCheck

end Pkcs12
