/-
Settings that come out of a draft.

# Two readings of the same demands

A draft goes through a check that answers settings or a list of what is wrong
with it. The check tests all bounds at once, because the settings carry the
proofs of them; the list tests them one by one, because each has a report of
its own. `exists_ofDraft_eq_ok_iff` says that the two agree: settings come
out exactly when the list is empty. With that, a refused draft has at least
one report (`ofDraft_eq_error`), so a fault of the configuration is never
without a reason.

# Settings without an environment

`standard` are the settings of a draft in which nothing is given.
-/
import Pkcs12.Settings

namespace Pkcs12.Settings

/-- What a draft has to fulfil for nothing to be wrong with it: the bounds, and a
family name that some scheme has. -/
theorem refusals_eq_nil_iff (d : Draft) :
    d.refusals = [] ↔ (1 ≤ d.maxIterations ∧ 1 ≤ d.defaultIterations ∧ 1 ≤ d.saltSize
      ∧ d.saltSize ≤ 64) ∧ (Scheme.ofText? d.defaultFamily).isSome := by
  have hdemand {p : Prop} [Decidable p] (r : Refusal) : (if p then [] else [r]) = [] ↔ p := by
    by_cases hp : p
    · simp [hp]
    · simp [hp]
  simp only [Draft.refusals, List.append_eq_nil_iff, hdemand, decide_eq_true_eq, and_assoc]

/-- A draft is accepted exactly when nothing is wrong with it. -/
theorem exists_ofDraft_eq_ok_iff (d : Draft) : (∃ s, ofDraft d = .ok s) ↔ d.refusals = [] := by
  rw [refusals_eq_nil_iff, ofDraft]
  cases hfamily : Scheme.ofText? d.defaultFamily with
  | none =>
      constructor
      · rintro ⟨s, hs⟩
        cases hs
      · rintro ⟨-, hsome⟩
        cases hsome
  | some family =>
      by_cases hall : 1 ≤ d.maxIterations ∧ 1 ≤ d.defaultIterations ∧ 1 ≤ d.saltSize
          ∧ d.saltSize ≤ 64
      · simp only [dif_pos hall]
        exact ⟨fun _ => ⟨hall, rfl⟩, fun _ => ⟨_, rfl⟩⟩
      · simp only [dif_neg hall]
        constructor
        · rintro ⟨s, hs⟩
          cases hs
        · rintro ⟨hbounds, -⟩
          exact absurd hbounds hall

/-- A draft that is refused is refused for what is wrong with it, and there is
something wrong with it: with an empty list it would have been accepted. -/
theorem ofDraft_eq_error {d : Draft} {refusals : List Refusal}
    (h : ofDraft d = .error refusals) : refusals = d.refusals ∧ refusals ≠ [] := by
  have hlist : refusals = d.refusals := by
    rw [ofDraft] at h
    split at h
    next =>
      cases h
      rfl
    next =>
      split at h
      next => cases h
      next =>
        cases h
        rfl
  refine ⟨hlist, fun hnil => ?_⟩
  obtain ⟨s, hs⟩ := (exists_ofDraft_eq_ok_iff d).2 (hlist.symm.trans hnil)
  rw [hs] at h
  cases h

/-- The settings of a draft in which nothing is given. -/
def standard : Settings where
  maxIterations := 1000000
  defaultIterations := 2048
  saltSize := 8
  defaultFamily := .tripleDes
  globalSeed := 1337
  reportsDirectory := Text.ofString "reports"
  maxIterations_pos := by decide
  defaultIterations_pos := by decide
  saltSize_pos := by decide
  saltSize_le := by decide

example : ofDraft {} = .ok standard := rfl

end Pkcs12.Settings
