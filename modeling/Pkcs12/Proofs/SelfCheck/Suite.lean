/-
The suite of both checks over several schemes.

# How it ends

Under settings, and for a count that can be named, a suite ends with reports or
with an error that can be reported, but for one thing: a number of trials that
the tamper check does not accept (`runSchemes_cases`). That shows at the first
scheme, after its round-trip run (`runSchemes_of_fault`), so only a count that
this run has no use for is reported before it. The induction is on the
schemes, with the log generalised, since every check goes on with the log
that the one before it leaves; `runSchemes_cons` takes the first scheme off,
and the three laws behind it say what each of its two checks may do to the
suite.

# Reports

`Suite.Reports` is what the suite knows of its reports: one on the round trips
of each scheme, which counts its trials, and those of the tamper check, which
have nothing to find fault with. From that follow the two things that the
command line needs. Reports have a document, since no share of trials is
beyond the range of numbers (`Suite.exists_document`); and they are perfect
unless a trial's encryption fails, for the tamper check finds nothing
(`Suite.Reports.isPerfect_iff`).
-/
import Pkcs12.Proofs.Encryption.Failure
import Pkcs12.Proofs.SelfCheck.RoundTrip
import Pkcs12.Proofs.SelfCheck.Tamper
import Pkcs12.SelfCheck.Suite

namespace Pkcs12.SelfCheck

open Pkcs12.Outcome (ok_bind bind_eq_ok_iff bind_eq_error_iff)
open Logged (run_bind_of_ok run_bind_of_error run_lift_bind_of_ok)

variable {σ : Type} {setup : Setup σ} {scheme : Scheme} {schemes : List Scheme}
  {trials seed iterations : Int} {s : Settings} {t : Trial} {e : Error}

-- ================================================================ errors

private theorem length_salt_trialAt (setup : Setup σ) (scheme : Scheme) (state : σ) (k : Nat) :
    (setup.trialAt scheme state k).salt.length = 8 := by
  induction k generalizing state with
  | zero => exact length_salt_drawTrial setup.generator scheme state
  | succ k ih => exact ih _

/-- What keeps a trial from having a ciphertext can be reported, if its count can
be named: its identifier is refused for the count, and its encryption for a
reason of the data or of the key. -/
private theorem isReportable_of_ciphertext (hs : setup.settings = .ok s)
    (hcount : iterations.natAbs < Numeral.bound) (hsalt : t.salt.length = 8)
    (h : setup.ciphertext scheme iterations t = .error e) : e.isReportable = true := by
  rw [Setup.ciphertext, bind_eq_error_iff] at h
  rcases h with hidentifier | ⟨a, ha, henc⟩
  · rw [(identifier_eq_error hs hidentifier).1]
    rfl
  · rw [Setup.identifier, hs] at ha
    have hnameable : ¬ Unnameable s a := by
      refine not_unnameable_of_forEncryption ha ?_ hcount
      rw [Option.getD_some, hsalt]
      decide
    rw [hs] at henc
    cases hkeyed : cipherFor (.ok s) a t.password with
    | ok keyed =>
        rw [encrypt_of_ok hkeyed] at henc
        cases henc
    | error e' =>
        rw [encrypt_of_error hkeyed] at henc
        cases henc
        rcases cipherFor_error_cases hkeyed with hreportable | ⟨-, hunnameable⟩
        · exact hreportable
        · exact absurd hunnameable hnameable

-- =============================================================== reports

/-- The report of a round-trip run counts the trials of its scheme. -/
def Setup.Reports (setup : Setup σ) (trials seed iterations : Int) (scheme : Scheme)
    (r : RoundTripReport) : Prop :=
  ∃ count failed, r = reportOf scheme trials seed iterations count
    ∧ Tally.Counts setup scheme iterations Suite.failureLimit (setup.start seed) trials.toNat
      failed count

/-- Reports of a suite over some schemes: one on the round trips of each, and
those of the tamper check, which have nothing to find fault with. -/
structure Suite.Reports (setup : Setup σ) (trials seed iterations : Int) (schemes : List Scheme)
    (suite : Suite) : Prop where
  roundTrips : List.Forall₂ (setup.Reports trials seed iterations) schemes suite.roundTrips
  tampers : ∀ r ∈ suite.tampers, r.isPerfect = true

/-- The share of passed trials is a number. -/
private theorem Setup.Reports.exists_successRate {r : RoundTripReport}
    (h : setup.Reports trials seed iterations scheme r) : ∃ share, r.successRate = .ok share := by
  obtain ⟨count, failed, rfl, hcounts⟩ := h
  have htotal := hcounts.passed_add_failed
  rw [RoundTripReport.successRate]
  by_cases hpos : 0 < trials
  · obtain ⟨share, hshare⟩ : ∃ share, rate count.passed trials.toNat = .ok share :=
      exists_rate (by omega) (by omega)
    rw [Int.toNat_of_nonneg (by omega)] at hshare
    refine ⟨share, ?_⟩
    show (if 0 < trials then _ else _) = _
    rw [if_pos hpos]
    exact hshare
  · refine ⟨Binary64.zero false, ?_⟩
    show (if 0 < trials then _ else _) = _
    rw [if_neg hpos]

-- ============================================================ one scheme

/-- What is announced before the checks of a scheme. -/
def announced (scheme : Scheme) (trials : Int) (log : Log) : Log :=
  log ++ [⟨.info, Text.ofString s!"Evaluating {scheme.name} ({trials} vectors)"⟩]

/-- The checks of the first scheme come before those of the rest. -/
theorem runSchemes_cons (setup : Setup σ) (trials seed iterations : Int) (scheme : Scheme)
    (rest : List Scheme) (log : Log) :
    (Suite.runSchemes setup trials seed iterations (scheme :: rest)).run.run log
      = (do
          let r ← runRoundTrip setup scheme.name trials seed iterations Suite.failureLimit
          let r' ← runTamper setup scheme.name trials seed iterations
          let others ← Suite.runSchemes setup trials seed iterations rest
          return (⟨r :: others.roundTrips, r' :: others.tampers⟩ : Suite)).run.run
            (announced scheme trials log) := by
  rw [Suite.runSchemes]
  exact run_bind_of_ok rfl

/-- A suite goes on after the checks of its first scheme, with the log that
they leave. -/
private theorem runSchemes_of_ok {log between after : Log} {r : RoundTripReport} {r' : TamperReport}
    {rest : List Scheme}
    (hroundTrip : (runRoundTrip setup scheme.name trials seed iterations
      Suite.failureLimit).run.run (announced scheme trials log) = (.ok r, between))
    (htamper : (runTamper setup scheme.name trials seed iterations).run.run between
      = (.ok r', after)) :
    (Suite.runSchemes setup trials seed iterations (scheme :: rest)).run.run log
      = (do
          let others ← Suite.runSchemes setup trials seed iterations rest
          return (⟨r :: others.roundTrips, r' :: others.tampers⟩ : Suite)).run.run after := by
  rw [runSchemes_cons, run_bind_of_ok hroundTrip, run_bind_of_ok htamper]

private theorem runSchemes_of_roundTrip_error {log after : Log} {rest : List Scheme}
    (h : (runRoundTrip setup scheme.name trials seed iterations
      Suite.failureLimit).run.run (announced scheme trials log) = (.error e, after)) :
    (Suite.runSchemes setup trials seed iterations (scheme :: rest)).run.run log
      = (.error e, after) := by
  rw [runSchemes_cons, run_bind_of_error h]

private theorem runSchemes_of_tamper_error {log between after : Log} {r : RoundTripReport}
    {rest : List Scheme}
    (hroundTrip : (runRoundTrip setup scheme.name trials seed iterations
      Suite.failureLimit).run.run (announced scheme trials log) = (.ok r, between))
    (h : (runTamper setup scheme.name trials seed iterations).run.run between
      = (.error e, after)) :
    (Suite.runSchemes setup trials seed iterations (scheme :: rest)).run.run log
      = (.error e, after) := by
  rw [runSchemes_cons, run_bind_of_ok hroundTrip, run_bind_of_error h]

/-- The tamper check does not begin with a number of trials that it does not
accept: nothing is drawn, and the log is as it was. -/
private theorem runTamper_of_fault {fault : Misuse} (setup : Setup σ) (scheme : Scheme)
    (seed iterations : Int) (log : Log) (hfault : trialsFault setup.memory trials = some fault) :
    (runTamper setup scheme.name trials seed iterations).run.run log
      = (.error (.misuse fault), log) := by
  rw [runTamper, run_lift_bind_of_ok scheme.byName_name]
  simp only [hfault]
  rfl

/-- With a number of trials that it accepts, and a count that can be named,
the tamper check ends with a report that is perfect, or with an error that can
be reported. -/
theorem runTamper_cases (hs : setup.settings = .ok s)
    (hcount : iterations.natAbs < Numeral.bound) (hfault : trialsFault setup.memory trials = none)
    (scheme : Scheme) (seed : Int) (log : Log) :
    (∃ r, (runTamper setup scheme.name trials seed iterations).run.run log = (.ok r, log)
        ∧ r.isPerfect = true)
      ∨ ∃ e, (runTamper setup scheme.name trials seed iterations).run.run log = (.error e, log)
        ∧ e.isReportable = true := by
  rcases tamperTrials_cases setup scheme iterations trials.toNat (setup.start seed) with
    ⟨outcomes, hlength, hsilent, houtcomes⟩ | ⟨k, -, e, herror, hfails, -⟩
  · obtain ⟨share, hrun⟩ := runTamper_of_outcomes setup seed iterations log
      scheme.byName_name hfault houtcomes hlength hsilent
    exact Or.inl ⟨_, hrun, rfl⟩
  · exact Or.inr ⟨e,
      runTamper_of_error setup seed iterations log scheme.byName_name hfault herror,
      isReportable_of_ciphertext hs hcount (length_salt_trialAt setup scheme _ k) hfails⟩

-- ================================================================= suites

/-- A number of trials that the tamper check does not accept shows at the
first scheme, unless its round-trip run has no identifiers. -/
theorem runSchemes_of_fault {fault : Misuse} (hs : setup.settings = .ok s)
    (hfault : trialsFault setup.memory trials = some fault) (hready : 1 ≤ trials → 1 ≤ iterations)
    (scheme : Scheme) (rest : List Scheme) (seed : Int) (log : Log) :
    ∃ later, (Suite.runSchemes setup trials seed iterations (scheme :: rest)).run.run log
      = (.error (.misuse fault), later) := by
  obtain ⟨count, failed, hseries, -⟩ := exists_roundTrips setup scheme iterations
    Suite.failureLimit (setup.start seed) trials.toNat fun h => ⟨⟨s, hs⟩, hready (by omega)⟩
  obtain ⟨later, hroundTrip⟩ := runRoundTrip_of_ok setup seed (announced scheme trials log)
    scheme.byName_name hseries
  exact ⟨later, runSchemes_of_tamper_error hroundTrip
    (runTamper_of_fault setup scheme seed iterations later hfault)⟩

/-- A suite ends with reports, or with an error that can be reported, or with
the fault of a number of trials. -/
theorem runSchemes_cases (hs : setup.settings = .ok s)
    (hcount : iterations.natAbs < Numeral.bound) (schemes : List Scheme) (seed : Int) (log : Log) :
    (∃ suite later, (Suite.runSchemes setup trials seed iterations schemes).run.run log
          = (.ok suite, later)
        ∧ suite.Reports setup trials seed iterations schemes)
      ∨ ∃ e later, (Suite.runSchemes setup trials seed iterations schemes).run.run log
          = (.error e, later)
        ∧ (e.isReportable = true
          ∨ ∃ fault, e = .misuse fault ∧ trialsFault setup.memory trials = some fault
            ∧ (1 ≤ trials → 1 ≤ iterations)) := by
  induction schemes generalizing log with
  | nil =>
      exact Or.inl ⟨{}, log, rfl, .nil, fun r hr => absurd hr List.not_mem_nil⟩
  | cons scheme rest ih =>
      -- the round trips of the first scheme come first; then the tamper check,
      -- with a number of trials that is accepted or not; then the rest
      rcases runRoundTrip_cases setup scheme.name trials seed iterations Suite.failureLimit
        (announced scheme trials log) with
        ⟨u, hu, hready, count, failed, between, hroundTrip, hcounts⟩ | ⟨e, hroundTrip, hreason⟩
      · rcases Option.eq_none_or_eq_some (trialsFault setup.memory trials) with
          hfault | ⟨fault, hfault⟩
        · rcases runTamper_cases hs hcount hfault scheme seed between with
            ⟨r', htamper, hperfect⟩ | ⟨e, htamper, hreportable⟩
          · rw [runSchemes_of_ok hroundTrip htamper]
            rcases ih between with ⟨others, later, hrest, hothers⟩ | ⟨e, later, hrest, hreason⟩
            · refine Or.inl ⟨_, later, run_bind_of_ok hrest, .cons ?_ hothers.roundTrips,
                fun r hr => ?_⟩
              · rw [Scheme.byName_name] at hu
                cases hu
                exact ⟨count, failed, rfl, hcounts⟩
              · rcases List.mem_cons.1 hr with rfl | hr
                · exact hperfect
                · exact hothers.tampers r hr
            · exact Or.inr ⟨e, later, run_bind_of_error hrest, hreason⟩
          · exact Or.inr ⟨e, _, runSchemes_of_tamper_error hroundTrip htamper,
              Or.inl hreportable⟩
        · exact Or.inr ⟨_, _, runSchemes_of_tamper_error hroundTrip
            (runTamper_of_fault setup scheme seed iterations between hfault),
            Or.inr ⟨fault, rfl, hfault, fun h => (hready h).2⟩⟩
      · refine Or.inr ⟨e, _, runSchemes_of_roundTrip_error hroundTrip, Or.inl ?_⟩
        rcases hreason with h | ⟨u, -, -, h⟩
        · rw [Scheme.byName_name] at h
          cases h
        · rw [(identifier_eq_error hs h).1]
          rfl

-- ============================================================== documents

private theorem exists_mapM_toJson {reports : List RoundTripReport}
    (h : ∀ r ∈ reports, ∃ share, r.successRate = .ok share) :
    ∃ records, reports.mapM (·.toJson) = .ok records := by
  induction reports with
  | nil => exact ⟨[], rfl⟩
  | cons r reports ih =>
      obtain ⟨share, hshare⟩ := h r List.mem_cons_self
      obtain ⟨record, hrecord⟩ : ∃ record, r.toJson = .ok record :=
        ⟨_, bind_eq_ok_iff.2 ⟨share, hshare, rfl⟩⟩
      obtain ⟨records, hrecords⟩ := ih fun r hr => h r (List.mem_cons_of_mem _ hr)
      refine ⟨record :: records, ?_⟩
      rw [List.mapM_cons, hrecord, ok_bind, hrecords, ok_bind]
      rfl

/-- And so they make a document. -/
theorem Suite.exists_document {suite : Suite}
    (h : ∀ r ∈ suite.roundTrips, ∃ share, r.successRate = .ok share) :
    ∃ document, suite.document = .ok document := by
  obtain ⟨records, hrecords⟩ := exists_mapM_toJson h
  exact ⟨_, bind_eq_ok_iff.2 ⟨records, hrecords, rfl⟩⟩

/-- Those of a suite have such numbers. -/
theorem exists_successRate_of_mem {reports : List RoundTripReport}
    (h : List.Forall₂ (setup.Reports trials seed iterations) schemes reports) :
    ∀ r ∈ reports, ∃ share, r.successRate = .ok share := by
  induction h with
  | nil => exact fun r hr => absurd hr List.not_mem_nil
  | cons hfirst _ ih => exact List.forall_mem_cons.2 ⟨hfirst.exists_successRate, ih⟩

-- ============================================================= perfection

/-- A report is perfect if no trial's encryption fails. -/
theorem Setup.Reports.isPerfect_iff {r : RoundTripReport}
    (h : setup.Reports trials seed iterations scheme r) :
    r.isPerfect = true ↔ ∀ k : Nat, k < trials → ∀ e,
      ¬ setup.FailsWith scheme iterations (setup.drawnAt scheme (setup.start seed) k) e := by
  obtain ⟨count, failed, rfl, hcounts⟩ := h
  have hperfect : (reportOf scheme trials seed iterations count).isPerfect = true
      ↔ failed = [] := by
    simp [RoundTripReport.isPerfect, reportOf, hcounts.failed_eq]
  rw [hperfect]
  constructor
  · rintro rfl k hk e hfails
    exact List.not_mem_nil ((hcounts.mem_iff k).2 ⟨Int.lt_toNat.2 hk, e, hfails⟩)
  · intro hnone
    refine List.eq_nil_iff_forall_not_mem.2 fun k hk => ?_
    obtain ⟨hlt, e, hfails⟩ := (hcounts.mem_iff k).1 hk
    exact hnone k (Int.lt_toNat.1 hlt) e hfails

theorem all_isPerfect_iff {reports : List RoundTripReport}
    (h : List.Forall₂ (setup.Reports trials seed iterations) schemes reports) :
    reports.all (·.isPerfect) = true ↔ ∀ scheme ∈ schemes, ∀ k : Nat, k < trials → ∀ e,
      ¬ setup.FailsWith scheme iterations (setup.drawnAt scheme (setup.start seed) k) e := by
  induction h with
  | nil => exact iff_of_true rfl fun scheme h => absurd h List.not_mem_nil
  | cons hfirst _ ih =>
      rw [List.all_cons, Bool.and_eq_true, hfirst.isPerfect_iff, ih, List.forall_mem_cons]

/-- A suite is perfect if no trial's encryption fails, for the tamper check
finds nothing. -/
theorem Suite.Reports.isPerfect_iff {suite : Suite}
    (h : suite.Reports setup trials seed iterations schemes) :
    suite.isPerfect = true ↔ ∀ scheme ∈ schemes, ∀ k : Nat, k < trials → ∀ e,
      ¬ setup.FailsWith scheme iterations (setup.drawnAt scheme (setup.start seed) k) e := by
  rw [Suite.isPerfect, List.all_eq_true.2 h.tampers, Bool.and_true, all_isPerfect_iff h.roundTrips]

end Pkcs12.SelfCheck
