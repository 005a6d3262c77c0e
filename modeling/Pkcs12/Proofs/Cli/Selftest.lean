/-
The self-check as the command line runs it: the suite of both checks under
the Mersenne twister, once there are a seed and a number of trials.

# Missing values

A seed or a number of trials that is missing leaves the run, and so does a
number of trials that the tamper check does not accept; `SelftestEscapes` has
these three reasons. A count that is missing is another matter. The suite runs
as it does with a count of zero, but that the error for it says something else
and that the reports have none. Neither changes whether the run is left or
whether the reports are perfect, so what `Proofs.SelfCheck.Suite` says of a
count of zero is carried over (`reported_withoutCount`,
`runSuite_blank_of_ok`, `runSuite_blank_of_error`).

# Exit codes

`runSuite_cases` says how the suite ends, and `runSuite_of_escapes` that each
reason to leave is one. A command around it that writes no report prints the
reports, and its exit code says whether they are perfect: they are, unless
some trial has no ciphertext (`exit_of_runSelftest`). So the command leaves
the run for the reasons of its suite and no others
(`leaves_runSelftest_iff`).
-/
import Pkcs12.Proofs.Cli.Counts
import Pkcs12.Proofs.Cli.Escape
import Pkcs12.Proofs.Log
import Pkcs12.Proofs.SelfCheck.Suite

namespace Pkcs12.Cli

open SelfCheck
open Logged (run_bind_of_ok run_bind_of_error run_lift_bind_of_ok run_map_of_ok run_map_of_error
  run_tryCatch_of_ok run_tryCatch_of_error)

variable {world : World} {memory : Memory} {s : Settings} {vectors seed iterations : Given Int}
  {trials n : Int}
  {suite : Suite} {e : Error} {log later : Log}

-- =============================================================== reports

/-- Some trial of a self-check has no ciphertext. Every scheme draws its trials
from the seed anew, and a count that is missing is as good as zero. -/
def SomeTrialFails (memory : Memory) (s : Settings) (vectors seed iterations : Given Int) : Prop :=
  ∃ trials n, vectors = .value trials ∧ seed = .value n
    ∧ ∃ scheme, ∃ k : Nat, k < trials ∧ ∃ e,
      (suiteSetup memory s).FailsWith scheme (iterations.getD 0)
        ((suiteSetup memory s).drawnAt scheme (MersenneTwister.ofSeed n) k) e

/-- The reports of a self-check make a document, and they are perfect unless
some trial has no ciphertext. -/
structure Reported (memory : Memory) (s : Settings) (vectors seed iterations : Given Int)
    (suite : Suite) : Prop where
  document : ∃ document, suite.document = .ok document
  isPerfect_iff : suite.isPerfect = true ↔ ¬ SomeTrialFails memory s vectors seed iterations

private theorem reported_of_reports
    (h : suite.Reports (suiteSetup memory s) trials n (iterations.getD 0) Scheme.all) :
    Reported memory s (.value trials) (.value n) iterations suite where
  document := Suite.exists_document (exists_successRate_of_mem h.roundTrips)
  isPerfect_iff := by
    rw [h.isPerfect_iff]
    constructor
    · rintro hnone ⟨_, _, ⟨⟩, ⟨⟩, scheme, k, hk, e, hfails⟩
      exact hnone scheme scheme.mem_all k hk e hfails
    · exact fun hnone scheme _ k hk e hfails =>
        hnone ⟨trials, n, rfl, rfl, scheme, k, hk, e, hfails⟩

/-- The same reports without a count differ in nothing else. -/
private theorem reported_withoutCount
    (h : suite.Reports (suiteSetup memory s) trials n 0 Scheme.all) :
    Reported memory s (.value trials) (.value n) .blank suite.withoutCount where
  document := by
    refine Suite.exists_document fun r hr => ?_
    obtain ⟨r', hr', rfl⟩ := List.mem_map.1 hr
    exact exists_successRate_of_mem h.roundTrips r' hr'
  isPerfect_iff := by
    -- whether reports are perfect does not depend on the count in them
    have hsame : suite.withoutCount.isPerfect = suite.isPerfect := by
      rw [Suite.isPerfect, Suite.isPerfect, Suite.withoutCount, List.all_map]
      rfl
    rw [hsame]
    exact (reported_of_reports h).isPerfect_iff

-- ================================================================= suite

/-- Why a self-check leaves the run. -/
inductive SelftestEscapes (memory : Memory) : Given Int → Given Int → Given Int → Error → Prop
  /-- There is no seed. -/
  | seed {vectors iterations : Given Int} :
      SelftestEscapes memory vectors .blank iterations (.misuse .blankSeed)
  /-- There is no number of trials. -/
  | vectors {n : Int} {iterations : Given Int} :
      SelftestEscapes memory .blank (.value n) iterations (.misuse .blankVectors)
  /-- The tamper check does not accept the number of trials, and it is
  reached: the round trips before it need no count, or have one. -/
  | trials {trials n : Int} {iterations : Given Int} {fault : Misuse}
      (unaccepted : trialsFault memory trials = some fault)
      (reached : 1 ≤ trials → 1 ≤ iterations.getD 0) :
      SelftestEscapes memory (.value trials) (.value n) iterations (.misuse fault)

theorem SelftestEscapes.isReportable (h : SelftestEscapes memory vectors seed iterations e) :
    e.isReportable = false := by
  cases h <;> rfl

/-- Without a count the suite ends as it does with a count of zero. -/
private theorem runSuite_blank_of_ok
    (h : (Suite.run (suiteSetup memory s) trials n 0).run.run log = (.ok suite, later)) :
    (runSuite memory s (.value trials) (.value n) .blank).run.run log
      = (.ok suite.withoutCount, later) :=
  run_tryCatch_of_ok (run_map_of_ok h)

/-- And if it ends with the error for such a count, another is put in its place. -/
private theorem runSuite_blank_of_error
    (h : (Suite.run (suiteSetup memory s) trials n 0).run.run log = (.error e, later)) :
    (runSuite memory s (.value trials) (.value n) .blank).run.run log
      = (.error (if e = .format .schemeCount then .format .blankCount else e), later) :=
  run_tryCatch_of_error (run_map_of_error h)

/-- The suite of a self-check ends with reports, with an error that can be
reported, or with a reason to leave. -/
theorem runSuite_cases (memory : Memory) (s : Settings) (hcount : iterations.Nameable)
    (vectors seed : Given Int)
    (log : Log) :
    (∃ suite later, (runSuite memory s vectors seed iterations).run.run log = (.ok suite, later)
        ∧ Reported memory s vectors seed iterations suite)
      ∨ ∃ e later, (runSuite memory s vectors seed iterations).run.run log = (.error e, later)
        ∧ (e.isReportable = true ∨ SelftestEscapes memory vectors seed iterations e) := by
  have hsettings : (suiteSetup memory s).settings = .ok s := rfl
  have hzero : (0 : Int).natAbs < Numeral.bound := by decide +kernel
  -- the seed is asked for first, then the number of trials
  match seed, vectors, iterations with
  | .blank, .blank, _ => exact Or.inr ⟨_, log, rfl, Or.inr .seed⟩
  | .blank, .value trials, _ => exact Or.inr ⟨_, _, rfl, Or.inr .seed⟩
  | .value n, .blank, _ => exact Or.inr ⟨_, log, rfl, Or.inr .vectors⟩
  | .value n, .value trials, .value count =>
    rcases runSchemes_cases hsettings (hcount count rfl) Scheme.all n log with
      ⟨suite, later, hrun, hreports⟩ | ⟨e, later, hrun, hreason⟩
    · exact Or.inl ⟨suite, later, hrun, reported_of_reports hreports⟩
    · refine Or.inr ⟨e, later, hrun, hreason.imp_right ?_⟩
      rintro ⟨fault, rfl, hfault, hreached⟩
      exact .trials hfault hreached
  | .value n, .value trials, .blank =>
    rcases runSchemes_cases hsettings hzero Scheme.all n log with
      ⟨suite, later, hrun, hreports⟩ | ⟨e, later, hrun, hreason⟩
    · exact Or.inl ⟨_, later, runSuite_blank_of_ok hrun, reported_withoutCount hreports⟩
    · refine Or.inr ⟨_, later, runSuite_blank_of_error hrun, ?_⟩
      rcases hreason with hreportable | ⟨fault, rfl, hfault, hreached⟩
      -- the error may be replaced, but only by one that can be reported as well
      · refine Or.inl ?_
        split
        · rfl
        · exact hreportable
      · exact Or.inr (.trials hfault hreached)

/-- And with each of these reasons it does leave. -/
private theorem runSuite_of_escapes (s : Settings)
    (h : SelftestEscapes memory vectors seed iterations e) (log : Log) :
    ∃ later, (runSuite memory s vectors seed iterations).run.run log = (.error e, later) := by
  cases h with
  | @seed vectors iterations =>
      cases vectors with
      | blank => exact ⟨log, rfl⟩
      | value trials => exact ⟨_, rfl⟩
  | vectors => exact ⟨log, rfl⟩
  | @trials trials n iterations fault hfault hreached =>
      have hsettings : (suiteSetup memory s).settings = .ok s := rfl
      obtain ⟨later, hrun⟩ :=
        runSchemes_of_fault hsettings hfault hreached .tripleDes [.rc2] n log
      cases iterations with
      | value count => exact ⟨later, hrun⟩
      | blank => exact ⟨later, runSuite_blank_of_error hrun⟩

-- =============================================================== command

/-- A self-check whose reports nobody keeps prints them, and its exit code
says whether they are perfect. -/
private theorem runSelftest_of_ok {document : Json}
    (hsuite : (runSuite world.memory s vectors seed iterations).run.run log = (.ok suite, later))
    (hdocument : suite.document = .ok document) :
    (runSelftest world s vectors seed iterations none false).run.run log
      = (.ok ⟨if suite.isPerfect then 0 else 1, .document document suite.summaries, []⟩,
          later) := by
  rw [runSelftest, run_bind_of_ok hsuite, run_lift_bind_of_ok hdocument]
  rfl

/-- A self-check whose suite fails has no reports to print. -/
private theorem runSelftest_of_error
    (hsuite : (runSuite world.memory s vectors seed iterations).run.run log = (.error e, later))
    (report : Option Text) (save : Bool) :
    (runSelftest world s vectors seed iterations report save).run.run log = (.error e, later) := by
  rw [runSelftest, run_bind_of_error hsuite]

/-- The exit code is one exactly if some trial has no ciphertext. -/
theorem exit_of_runSelftest {done : Done} (hcount : iterations.Nameable)
    (hrun : (runSelftest world s vectors seed iterations none false).run.run log
      = (.ok done, later)) :
    (done.exit = 0 ∧ ¬ SomeTrialFails world.memory s vectors seed iterations)
      ∨ (done.exit = 1 ∧ SomeTrialFails world.memory s vectors seed iterations) := by
  rcases runSuite_cases world.memory s hcount vectors seed log with
    ⟨suite, later', hsuite, hreported⟩ | ⟨e, later', hsuite, -⟩
  · obtain ⟨document, hdocument⟩ := hreported.document
    rw [runSelftest_of_ok hsuite hdocument] at hrun
    cases hrun
    by_cases hfails : SomeTrialFails world.memory s vectors seed iterations
    · exact Or.inr ⟨if_neg fun hperfect => hreported.isPerfect_iff.1 hperfect hfails, hfails⟩
    · exact Or.inl ⟨if_pos (hreported.isPerfect_iff.2 hfails), hfails⟩
  · rw [runSelftest_of_error hsuite] at hrun
    cases hrun

/-- Such a self-check is left for its suite alone, since reports always have a
document. -/
theorem leaves_runSelftest_iff (hcount : iterations.Nameable) (log : Log) :
    Leaves ((runSelftest world s vectors seed iterations none false).run.run log).1 e
      ↔ SelftestEscapes world.memory vectors seed iterations e := by
  constructor
  · rintro ⟨hrun, hnot⟩
    rcases runSuite_cases world.memory s hcount vectors seed log with
      ⟨suite, later, hsuite, hreported⟩ | ⟨e', later, hsuite, hreason⟩
    · obtain ⟨document, hdocument⟩ := hreported.document
      rw [runSelftest_of_ok hsuite hdocument] at hrun
      cases hrun
    · rw [runSelftest_of_error hsuite] at hrun
      cases hrun
      refine hreason.resolve_left fun hreportable => ?_
      rw [hreportable] at hnot
      cases hnot
  · intro h
    obtain ⟨later, hsuite⟩ := runSuite_of_escapes s h log
    rw [runSelftest_of_error hsuite]
    exact ⟨rfl, h.isReportable⟩

end Pkcs12.Cli
