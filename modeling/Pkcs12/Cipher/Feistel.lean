/-
Feistel networks. One round replaces the halves `(l, r)` by `(r, l xor f k
r)`; after the last round the halves are exchanged. Running the same network
with the round keys in reverse order undoes it, whatever `f` is: exchanging
the halves turns a round into its own inverse.
-/
import Pkcs12.Cipher.Bits

namespace Pkcs12.Feistel

structure Halves (n : Nat) where
  left : Bits n
  right : Bits n

def Halves.swap {n : Nat} (h : Halves n) : Halves n := ⟨h.right, h.left⟩

/-- One round with the round function `f` and the round key `k`. -/
def round {n : Nat} {Key : Type} (f : Key → Bits n → Bits n) (h : Halves n) (k : Key) : Halves n :=
  ⟨h.right, Bits.xor h.left (f k h.right)⟩

/-- The network with the given round keys. The halves are exchanged once more at
the end, which is what makes the reversed keys undo it. -/
def run {n : Nat} {Key : Type} (f : Key → Bits n → Bits n) (keys : List Key) (h : Halves n) :
    Halves n :=
  (keys.foldl (round f) h).swap

/-- A round undoes itself between two exchanges. -/
private theorem round_swap_round {n : Nat} {Key : Type} (f : Key → Bits n → Bits n) (h : Halves n)
    (k : Key) : round f (round f h k).swap k = h.swap := by
  simp [round, Halves.swap, Bits.xor_xor_cancel]

/-- The reversed keys undo the rounds one by one, last round first. -/
private theorem foldl_reverse_swap {n : Nat} {Key : Type} (f : Key → Bits n → Bits n)
    (keys : List Key) (h : Halves n) :
    keys.reverse.foldl (round f) (keys.foldl (round f) h).swap = h.swap := by
  induction keys generalizing h with
  | nil => rfl
  | cons k keys ih =>
    simp only [List.reverse_cons, List.foldl_append, List.foldl_cons, ih]
    exact round_swap_round f h k

theorem run_reverse_run {n : Nat} {Key : Type} (f : Key → Bits n → Bits n) (keys : List Key)
    (h : Halves n) : run f keys.reverse (run f keys h) = h := by
  rw [run, run, foldl_reverse_swap]
  rfl

end Pkcs12.Feistel
