/-
Computations that may fail, one after the other.

# One link at a time

A chain of them succeeds exactly when every link does, and fails with the
error of the first link that fails. `bind_eq_ok_iff` and `bind_eq_error_iff`
say so for one link, as equivalences, so that a pipeline is taken apart and
put together with the same law; the statements about encoding, encryption and
settings are all proved by using them from the front of their pipeline. For
links whose result is known, `ok_bind`, `error_bind`, `some_bind` and
`guard_bind` remove one at a time.
-/

namespace Pkcs12.Outcome

variable {ε α β : Type} {x : Except ε α} {f : α → Except ε β}

theorem ok_bind (a : α) (f : α → Except ε β) : (Except.ok a >>= f) = f a := rfl

theorem error_bind (e : ε) (f : α → Except ε β) : (Except.error e >>= f) = Except.error e := rfl

/-- A chain that succeeds has succeeded at its first link. -/
theorem bind_eq_ok_iff {b : β} : (x >>= f) = .ok b ↔ ∃ a, x = .ok a ∧ f a = .ok b := by
  cases x with
  | error e =>
      constructor
      · intro h
        cases h
      · rintro ⟨a, ha, -⟩
        cases ha
  | ok a =>
      constructor
      · intro h
        exact ⟨a, rfl, h⟩
      · rintro ⟨a', ha, h⟩
        cases ha
        exact h

/-- A chain that fails has failed at its first link or after it. -/
theorem bind_eq_error_iff {e : ε} :
    (x >>= f) = .error e ↔ x = .error e ∨ ∃ a, x = .ok a ∧ f a = .error e := by
  cases x with
  | error e' =>
      constructor
      · intro h
        injection h with h
        exact Or.inl (congrArg Except.error h)
      · rintro (h | ⟨a, ha, -⟩)
        · injection h with h
          exact congrArg Except.error h
        · cases ha
  | ok a =>
      constructor
      · intro h
        exact Or.inr ⟨a, rfl, h⟩
      · rintro (h | ⟨a', ha, h⟩)
        · cases h
        · cases ha
          exact h

/-- What is made of a result is made of one. -/
theorem map_eq_ok_iff {g : α → β} {b : β} : x.map g = .ok b ↔ ∃ a, x = .ok a ∧ g a = b := by
  cases x with
  | error e =>
      constructor
      · intro h
        cases h
      · rintro ⟨a, ha, -⟩
        cases ha
  | ok a =>
      constructor
      · intro h
        exact ⟨a, rfl, Except.ok.inj h⟩
      · rintro ⟨a', ha, rfl⟩
        cases ha
        rfl

theorem some_bind (a : α) (f : α → Option β) : (some a >>= f) = f a := rfl

/-- A condition that holds is passed. -/
theorem guard_bind {p : Prop} [Decidable p] (h : p) (f : Unit → Option α) :
    (guard p >>= f) = f () := by
  show ((if p then some () else none) >>= f) = f ()
  rw [if_pos h]
  rfl

end Pkcs12.Outcome
