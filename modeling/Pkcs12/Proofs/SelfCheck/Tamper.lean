/-
The tamper check under any generator: it counts no silent acceptance.

# One trial

A trial has one point where it can fail, the ciphertext that it is about to
change; from there on nothing does (`tamperTrial_of_ok`), and what becomes of
the changed ciphertext is never a silent acceptance (`exists_judge`). Without
a ciphertext the trial fails with the reason for that
(`tamperTrial_of_error`), be it of its identifier or of its encryption.

# A series

A run is a series of such trials, so it ends with an outcome for each, or with
the error of the first trial that has no ciphertext (`tamperTrials_cases`).
The induction is on the number of trials with the state of the generator
generalised. Which trials there are must not depend on what becomes of them,
or the statement could not name them: the length of a ciphertext follows from
that of the plaintext, and only this length is handed to the generator, so
`Setup.next` is the state after a trial whatever its key was.

# A run

Around the series a run finds the scheme and checks the number of trials, and
then makes a report. The report has a share of rejections, which is a number
as it is at most one; and it warns of nothing, since nothing was accepted.
-/
import Pkcs12.Proofs.Encryption.Tampering
import Pkcs12.Proofs.Log
import Pkcs12.Proofs.Number.Quotient
import Pkcs12.Proofs.SelfCheck.Trial
import Pkcs12.SelfCheck.Tamper

namespace Pkcs12.SelfCheck

open Pkcs12.Outcome (ok_bind error_bind bind_eq_ok_iff bind_eq_error_iff)
open Logged (run_lift_bind_of_ok run_lift_bind_of_error)

variable {σ : Type} {setup : Setup σ} {scheme : Scheme} {iterations : Int} {state : σ}

-- ================================================================ trials

/-- The ciphertext of a trial, under an identifier of its own. -/
def Setup.ciphertext (setup : Setup σ) (scheme : Scheme) (iterations : Int) (t : Trial) :
    Except Error Bytes := do
  let a ← setup.identifier scheme iterations t
  encrypt setup.settings a t.password t.plaintext

/-- The generator's state after a trial: after its values, and after the place
that was drawn in a ciphertext of known length. -/
def Setup.next (setup : Setup σ) (scheme : Scheme) (state : σ) : σ :=
  let (t, state) := drawTrial setup.generator scheme state
  (setup.generator.upTo (8 * (8 * (t.plaintext.length / 8 + 1)) - 1) state).2

/-- The trial with an index, counted from a state of the generator. -/
def Setup.trialAt (setup : Setup σ) (scheme : Scheme) (state : σ) : Nat → Trial
  | 0 => (drawTrial setup.generator scheme state).1
  | k + 1 => setup.trialAt scheme (setup.next scheme state) k

/-- A changed ciphertext is not accepted silently. -/
private theorem exists_judge {settings : Settings.Source} {a : Identifier} {t : Trial}
    {ciphertext : Bytes}
    (h : encrypt settings a t.password t.plaintext = .ok ciphertext) {bit : Nat}
    (hbit : bit < 8 * ciphertext.length) :
    ∃ outcome, outcome ≠ .silent
      ∧ judge settings a t (Bytes.flipped ciphertext bit) = .ok outcome := by
  rcases decrypt_flipped h hbit with hrefused | ⟨m, haltered, hne⟩
  · refine ⟨.rejected, by decide, ?_⟩
    rw [judge, hrefused]
  · refine ⟨.altered, by decide, ?_⟩
    rw [judge, haltered]
    simp only
    rw [if_neg hne]

/-- A trial without a ciphertext fails with the reason for that. -/
private theorem tamperTrial_of_error {e : Error}
    (h : setup.ciphertext scheme iterations (setup.trialAt scheme state 0) = .error e) :
    tamperTrial setup scheme iterations state = .error e := by
  rw [Setup.trialAt] at h
  rw [tamperTrial]
  generalize drawTrial setup.generator scheme state = drawn at h ⊢
  rcases drawn with ⟨t, after⟩
  simp only [Setup.ciphertext] at h ⊢
  cases hidentifier : setup.identifier scheme iterations t with
  | error e' =>
      rw [hidentifier, error_bind] at h
      rw [error_bind, Except.error.inj h]
  | ok a =>
      rw [hidentifier, ok_bind] at h
      rw [ok_bind, h, error_bind]

/-- A trial with a ciphertext comes to an outcome, and never to a silent
acceptance. The bit that is drawn is one of the ciphertext's. -/
private theorem tamperTrial_of_ok {ciphertext : Bytes}
    (h : setup.ciphertext scheme iterations (setup.trialAt scheme state 0) = .ok ciphertext) :
    ∃ outcome, outcome ≠ .silent
      ∧ tamperTrial setup scheme iterations state = .ok (outcome, setup.next scheme state) := by
  have hshort := length_plaintext_lt setup.generator scheme state
  rw [Setup.trialAt] at h
  rw [tamperTrial, Setup.next]
  generalize drawTrial setup.generator scheme state = drawn at h hshort ⊢
  rcases drawn with ⟨t, after⟩
  simp only at h hshort ⊢
  obtain ⟨a, hidentifier, henc⟩ := bind_eq_ok_iff.1 h
  obtain ⟨⟨c, iv⟩, hkeyed⟩ := exists_cipherFor_of_encrypt henc
  have hlength := length_of_encrypt hkeyed henc
  -- the generator is handed the length of the ciphertext
  rw [← hlength, hidentifier, ok_bind, henc, ok_bind]
  let place := setup.generator.upTo (8 * ciphertext.length - 1) after
  have hbit : place.1.val < 8 * ciphertext.length := by
    have := place.1.isLt
    omega
  obtain ⟨outcome, hne, hjudge⟩ := exists_judge henc hbit
  refine ⟨outcome, hne, ?_⟩
  show (Bytes.flipBit ciphertext place.1.val >>= _) = _
  rw [Bytes.flipBit_of_lt hbit (by omega), ok_bind, hjudge, ok_bind]
  rfl

-- ================================================================ series

/-- A series of trials that all have a ciphertext comes to an outcome for
each, and to no silent acceptance; one that fails does so at the first trial
that has none. -/
theorem tamperTrials_cases (setup : Setup σ) (scheme : Scheme) (iterations : Int) (n : Nat)
    (state : σ) :
    (∃ outcomes : List TamperOutcome, outcomes.length = n ∧ .silent ∉ outcomes
        ∧ tamperTrials setup scheme iterations n state = .ok outcomes)
      ∨ ∃ k < n, ∃ e, tamperTrials setup scheme iterations n state = .error e
          ∧ setup.ciphertext scheme iterations (setup.trialAt scheme state k) = .error e
          ∧ ∀ j < k, ∃ ciphertext,
              setup.ciphertext scheme iterations (setup.trialAt scheme state j)
                = .ok ciphertext := by
  -- the trials after the first are those of the generator's next state
  induction n generalizing state with
  | zero => exact Or.inl ⟨[], rfl, List.not_mem_nil, rfl⟩
  | succ n ih =>
      cases hfirst : setup.ciphertext scheme iterations (setup.trialAt scheme state 0) with
      | error e =>
          refine Or.inr ⟨0, Nat.zero_lt_succ n, e, ?_, hfirst, fun j hj => absurd hj (by omega)⟩
          rw [tamperTrials, tamperTrial_of_error hfirst, error_bind]
      | ok ciphertext =>
          obtain ⟨outcome, hne, htrial⟩ := tamperTrial_of_ok hfirst
          have hstep : tamperTrials setup scheme iterations (n + 1) state
              = (do
                  let rest ← tamperTrials setup scheme iterations n (setup.next scheme state)
                  return outcome :: rest) := by
            rw [tamperTrials, htrial, ok_bind]
          -- the first trial has an outcome, so the rest of the series decides; its
          -- trials are numbered one higher here
          rcases ih (setup.next scheme state) with ⟨rest, hcount, hsilent, hrest⟩
            | ⟨k, hk, e, hrest, hfails, hbefore⟩
          · refine Or.inl ⟨outcome :: rest, congrArg (· + 1) hcount, ?_, ?_⟩
            · rw [List.mem_cons, not_or]
              exact ⟨Ne.symm hne, hsilent⟩
            · rw [hstep, hrest, ok_bind]
              rfl
          · refine Or.inr ⟨k + 1, by omega, e, ?_, hfails, ?_⟩
            · rw [hstep, hrest, error_bind]
            · intro j hj
              cases j with
              | zero => exact ⟨ciphertext, hfirst⟩
              | succ j => exact hbefore j (by omega)

private theorem count_add_count {outcomes : List TamperOutcome} (h : .silent ∉ outcomes) :
    outcomes.count .rejected + outcomes.count .altered = outcomes.length := by
  induction outcomes with
  | nil => rfl
  | cons outcome rest ih =>
      obtain ⟨hne, hrest⟩ := not_or.1 (mt List.mem_cons.2 h)
      have := ih hrest
      cases outcome with
      | rejected => simp; omega
      | altered => simp; omega
      | silent => exact absurd rfl hne

-- ================================================================== runs

/-- The share of some trials among all of them is a number. -/
theorem exists_rate {num den : Nat} (hden : den ≠ 0) (h : num ≤ den) :
    ∃ share, rate num den = .ok share := by
  obtain ⟨share, hshare⟩ := Binary64.exists_ofRatio? (decide ((num : Int) < 0)) hden h
  refine ⟨share, ?_⟩
  rw [rate, Int.natAbs_natCast, Int.natAbs_natCast, hshare]

/-- A number of trials that is accepted is not negative. -/
private theorem nonneg_of_trialsFault {memory : Memory} {trials : Int}
    (h : trialsFault memory trials = none) : 0 ≤ trials := by
  rw [trialsFault] at h
  refine Int.not_lt.1 fun hneg => ?_
  rw [if_pos hneg] at h
  split at h <;> cases h

section

variable {family : String} {trials : Int} {scheme : Scheme}

/-- A run whose trials have outcomes, none of them a silent acceptance, ends with
their report, and it warns of nothing. -/
theorem runTamper_of_outcomes (setup : Setup σ) (seed iterations : Int) (log : Log)
    {outcomes : List TamperOutcome} (hscheme : Scheme.byName family = .ok scheme)
    (hfault : trialsFault setup.memory trials = none)
    (houtcomes : tamperTrials setup scheme iterations trials.toNat (setup.start seed)
      = .ok outcomes)
    (hcount : outcomes.length = trials.toNat) (hsilent : .silent ∉ outcomes) :
    ∃ share, (runTamper setup family trials seed iterations).run.run log
      = (.ok {
          family := scheme.name
          total := trials
          rejected := outcomes.count .rejected
          altered := outcomes.count .altered
          silent := 0
          rejectionRate := share
          seed := seed }, log) := by
  have hnone : outcomes.count .silent = 0 := List.count_eq_zero_of_not_mem hsilent
  have hrejected : outcomes.count .rejected ≤ outcomes.length := List.count_le_length
  have hnonneg := nonneg_of_trialsFault hfault
  rw [runTamper, run_lift_bind_of_ok hscheme]
  simp only [hfault]
  rw [run_lift_bind_of_ok houtcomes, hnone]
  simp only [ne_eq, not_true_eq_false, if_false]
  -- without trials the share is zero by definition, with some it is a
  -- quotient of at most one
  by_cases hzero : trials = 0
  · refine ⟨Binary64.zero false, ?_⟩
    simp only [if_pos hzero]
    rfl
  · obtain ⟨share, hshare⟩ : ∃ share, rate (outcomes.count .rejected) trials.toNat = .ok share :=
      exists_rate (by omega) (by omega)
    rw [Int.toNat_of_nonneg hnonneg] at hshare
    refine ⟨share, ?_⟩
    simp only [if_neg hzero]
    exact run_lift_bind_of_ok hshare

/-- A run fails with the error of its trials. -/
theorem runTamper_of_error (setup : Setup σ) (seed iterations : Int) (log : Log) {e : Error}
    (hscheme : Scheme.byName family = .ok scheme)
    (hfault : trialsFault setup.memory trials = none)
    (h : tamperTrials setup scheme iterations trials.toNat (setup.start seed) = .error e) :
    (runTamper setup family trials seed iterations).run.run log = (.error e, log) := by
  rw [runTamper, run_lift_bind_of_ok hscheme]
  simp only [hfault]
  exact run_lift_bind_of_error h

end

/-- Whatever the generator answers, a run either ends with a report that
counts no silent acceptance, and as many rejections and alterations as there
were trials, or it fails: for a family without a scheme, for a number of
trials that it does not accept, or at the first trial without a ciphertext,
with the error of its identifier or of its encryption. What is decrypted
never fails it, for a ciphertext with any one bit changed is refused with
the decryption error or has another plaintext. -/
theorem runTamper_never_silent (setup : Setup σ) (family : String)
    (trials seed iterations : Int) (log : Log) :
    ((∃ r, (runTamper setup family trials seed iterations).run.run log = (.ok r, log)
        ∧ r.silent = 0 ∧ r.isPerfect = true ∧ r.rejected + r.altered = trials)
      ∨ ∃ e, (runTamper setup family trials seed iterations).run.run log = (.error e, log)
        ∧ (Scheme.byName family = .error e
          ∨ (∃ fault, trialsFault setup.memory trials = some fault ∧ e = .misuse fault)
          ∨ ∃ scheme, Scheme.byName family = .ok scheme ∧ ∃ k : Nat, k < trials
            ∧ (∀ j < k, ∃ ciphertext,
                setup.ciphertext scheme iterations (setup.trialAt scheme (setup.start seed) j)
                  = .ok ciphertext)
            ∧ ∃ t, t = setup.trialAt scheme (setup.start seed) k
              ∧ (setup.identifier scheme iterations t = .error e
                ∨ ∃ a, setup.identifier scheme iterations t = .ok a
                  ∧ encrypt setup.settings a t.password t.plaintext = .error e)))
    ∧ ∀ a password plaintext ciphertext,
        encrypt setup.settings a password plaintext = .ok ciphertext →
        ∀ bit < 8 * ciphertext.length,
          (bit / 8 < 2 ^ 63 → Bytes.flipBit ciphertext bit = .ok (Bytes.flipped ciphertext bit))
          ∧ (decrypt setup.settings a password (Bytes.flipped ciphertext bit)
                = .error .decryption
            ∨ ∃ m, decrypt setup.settings a password (Bytes.flipped ciphertext bit) = .ok m
                ∧ m ≠ plaintext) := by
  refine ⟨?_, fun a password plaintext ciphertext henc bit hbit =>
    ⟨Bytes.flipBit_of_lt hbit, decrypt_flipped henc hbit⟩⟩
  cases hscheme : Scheme.byName family with
  | error e =>
      refine Or.inr ⟨e, ?_, Or.inl rfl⟩
      rw [runTamper, run_lift_bind_of_error hscheme]
  | ok scheme =>
      cases hfault : trialsFault setup.memory trials with
      | some fault =>
          refine Or.inr ⟨.misuse fault, ?_, Or.inr (Or.inl ⟨fault, rfl, rfl⟩)⟩
          rw [runTamper, run_lift_bind_of_ok hscheme]
          simp only [hfault]
          rfl
      | none =>
          have hnonneg := nonneg_of_trialsFault hfault
          rcases tamperTrials_cases setup scheme iterations trials.toNat (setup.start seed) with
            ⟨outcomes, hcount, hsilent, houtcomes⟩ | ⟨k, hk, e, herror, hfails, hbefore⟩
          · obtain ⟨share, hrun⟩ := runTamper_of_outcomes setup seed iterations log hscheme hfault
              houtcomes hcount hsilent
            have htotal := count_add_count hsilent
            refine Or.inl ⟨_, hrun, rfl, rfl, ?_⟩
            show ((outcomes.count .rejected : Nat) : Int) + (outcomes.count .altered : Nat) = trials
            omega
          · have hrun := runTamper_of_error setup seed iterations log hscheme hfault herror
            exact Or.inr ⟨e, hrun, Or.inr (Or.inr ⟨scheme, rfl, k, by omega, hbefore, _, rfl,
              bind_eq_error_iff.1 hfails⟩)⟩

end Pkcs12.SelfCheck
