/-
Sources of random numbers. A generator answers one question, for a number
up to a bound, and nothing is assumed of its answers: what is proved about
a computation that draws from one holds for every sequence of draws.
-/

namespace Pkcs12

/-- A generator with states `σ`: a number of at most `bound`, and the next
state. -/
structure Generator (σ : Type) where
  upTo : (bound : Nat) → σ → Fin (bound + 1) × σ

/-- A computation that draws from a generator. -/
abbrev Draw (σ : Type) := StateM σ

namespace Generator

variable {σ : Type}

/-- A number of at most `bound`. -/
def draw (g : Generator σ) (bound : Nat) : Draw σ (Fin (bound + 1)) :=
  g.upTo bound

/-- A given number of results of one draw. -/
def times {α : Type} (one : Draw σ α) : Nat → Draw σ (List α)
  | 0 => return []
  | n + 1 => do
    let first ← one
    let rest ← times one n
    return first :: rest

def octets (g : Generator σ) (n : Nat) : Draw σ (List UInt8) :=
  times (do return UInt8.ofNat (← g.draw 255).val) n

end Generator

end Pkcs12
