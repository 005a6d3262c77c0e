/-
The round-trip check under any generator: what it counts as failed are its
trials without a ciphertext.

# One trial

Of the ways for a trial to fail only one is left, that its encryption does.
What is encrypted is decrypted to the plaintext, and the ciphertext is longer
and of whole blocks (`ciphertext_facts`), so a trial with a ciphertext passes
(`attempt_of_ok`), and one without comes to the error of its encryption
(`attempt_of_error`). An identifier is a matter of the settings and of the
count, hence of all trials of a run alike (`exists_identifier_iff`).

# The count

`Tally.Counts` is the invariant of a run: the failed trials by their indices in
ascending order, exactly those whose encryption fails; passed and failed ones
together; and the details that are kept, which are those of the first failed
trials up to the limit, with the error of the encryption and with nothing to
show of what does not exist. One lemma for each kind of further trial
(`add_of_passed`, `add_of_failsWith`) carries it from a number of trials to
the next.

# Taking a run apart at its end

Trials are drawn one after the other, and nothing of what they come to is
handed to the generator. The loop counts from its front, with the state of the
generator and the count so far as arguments; `roundTrips_succ` turns it around
so that the last trial comes last, and what was counted before it is what a
shorter run counts. The run lemma `exists_roundTrips` is then the induction
that the invariant is made for.
-/
import Mathlib.Data.List.Forall2
import Mathlib.Data.List.Perm.Subperm
import Pkcs12.Proofs.Algorithm.RoundTrip
import Pkcs12.Proofs.Encryption.RoundTrip
import Pkcs12.Proofs.Log
import Pkcs12.Proofs.SelfCheck.Trial
import Pkcs12.Proofs.Settings
import Pkcs12.SelfCheck.RoundTrip

namespace Pkcs12.SelfCheck

open Pkcs12.Outcome (ok_bind error_bind bind_eq_ok_iff)
open Logged (run_lift_bind_of_ok run_lift_bind_of_error)

variable {σ : Type} {setup : Setup σ} {scheme : Scheme} {iterations limit : Int} {state : σ}
  {t : Trial}

-- ================================================================ trials

/-- The trial with an index in a run that draws nothing else, counted from a
state of the generator. -/
def Setup.drawnAt (setup : Setup σ) (scheme : Scheme) (state : σ) : Nat → Trial
  | 0 => (drawTrial setup.generator scheme state).1
  | k + 1 => setup.drawnAt scheme (drawTrial setup.generator scheme state).2 k

/-- A trial has an identifier, and its encryption fails with an error. -/
def Setup.FailsWith (setup : Setup σ) (scheme : Scheme) (iterations : Int) (t : Trial)
    (e : Error) : Prop :=
  ∃ a, setup.identifier scheme iterations t = .ok a
    ∧ encrypt setup.settings a t.password t.plaintext = .error e

/-- The details of a trial whose encryption fails with an error. -/
def encryptionFailure (index : Nat) (t : Trial) (e : Error) : Failure where
  index := index
  plaintext := t.plaintext.toHex
  salt := t.salt.toHex
  ciphertext := "<error>"
  decrypted := "<error>"
  error := some s!"{e.label}: {e.message}"

private theorem length_salt_drawnAt (setup : Setup σ) (scheme : Scheme) (state : σ) (k : Nat) :
    (setup.drawnAt scheme state k).salt.length = 8 := by
  induction k generalizing state with
  | zero => exact length_salt_drawTrial setup.generator scheme state
  | succ k ih => exact ih _

/-- A trial has an identifier if there are settings and the count is one or more:
nothing that was drawn matters. -/
theorem exists_identifier_iff (setup : Setup σ) (scheme : Scheme) (iterations : Int) (t : Trial) :
    (∃ a, setup.identifier scheme iterations t = .ok a)
      ↔ (∃ s, setup.settings = .ok s) ∧ 1 ≤ iterations := by
  rw [Setup.identifier]
  constructor
  · rintro ⟨a, ha⟩
    obtain ⟨s, u, p, hs, -, -, hcount, -, -⟩ := Identifier.forEncryption_eq_ok_iff.1 ha
    have := p.iterations_pos
    rw [Option.getD_some] at hcount
    exact ⟨⟨s, hs⟩, by omega⟩
  · rintro ⟨⟨s, hs⟩, hpos⟩
    rw [hs]
    exact Identifier.exists_forEncryption s _ scheme (some t.salt) hpos

/-- Under settings only a count below one keeps a trial from having an
identifier. -/
theorem identifier_eq_error {s : Settings} {e : Error} (hs : setup.settings = .ok s)
    (h : setup.identifier scheme iterations t = .error e) :
    e = .format .schemeCount ∧ iterations < 1 := by
  rw [Setup.identifier, hs] at h
  exact Identifier.forEncryption_eq_error h

/-- A count above the configured maximum has no ciphertext: its identifier is made
and read back, and the maximum is looked at then. -/
private theorem exists_failsWith_of_lt {s : Settings} (hs : setup.settings = .ok s)
    (habove : s.maxIterations < iterations)
    (hstatable : SchemeParameters.Statable t.salt iterations) :
    ∃ e, setup.FailsWith scheme iterations t e := by
  have hpos := s.maxIterations_pos
  obtain ⟨a, ha⟩ := (exists_identifier_iff setup scheme iterations t).2 ⟨⟨s, hs⟩, by omega⟩
  obtain ⟨_, u, p, -, -, hsalt, hcount, halgorithm, hread⟩ :=
    Identifier.exists_ofDer_of_forEncryption ha
  rw [Option.getD_some] at hsalt hcount
  rw [← hsalt, ← hcount] at hstatable
  have hkeyed : cipherFor (.ok s) a t.password = _ := cipherFor_of_ok halgorithm (hread hstatable)
  rw [if_neg (by omega), ← hs] at hkeyed
  exact ⟨_, a, ha, encrypt_of_error hkeyed _⟩

/-- A trial whose encryption fails comes to that error and to nothing
else. -/
private theorem attempt_of_error {settings : Settings.Source} {a : Identifier} {e : Error}
    (h : encrypt settings a t.password t.plaintext = .error e) :
    attempt settings scheme a t = ⟨[], [], false, some e⟩ := by
  rw [attempt, h]

/-- What can be said of a ciphertext of a trial: it is decrypted to the
plaintext, it is longer, and it is of whole blocks. -/
private theorem ciphertext_facts {settings : Settings.Source} {a : Identifier} {ciphertext : Bytes}
    (scheme : Scheme) (h : encrypt settings a t.password t.plaintext = .ok ciphertext) :
    decrypt settings a t.password ciphertext = .ok t.plaintext
      ∧ t.plaintext.length < ciphertext.length ∧ ciphertext.length % scheme.blockSize = 0 := by
  obtain ⟨⟨c, iv⟩, hkeyed⟩ := exists_cipherFor_of_encrypt h
  have hlength := length_of_encrypt hkeyed h
  refine ⟨decrypt_of_encrypt hkeyed h, by omega, ?_⟩
  rw [hlength]
  exact Nat.mul_mod_right 8 _

/-- A trial with a ciphertext passes. -/
private theorem attempt_of_ok {settings : Settings.Source} {a : Identifier} {ciphertext : Bytes}
    (h : encrypt settings a t.password t.plaintext = .ok ciphertext) :
    (attempt settings scheme a t).passed = true := by
  obtain ⟨hdecrypt, hlonger, hwhole⟩ := ciphertext_facts scheme h
  simp only [attempt, h, hdecrypt, hlonger, hwhole, beq_self_eq_true, decide_true, Bool.and_self]

-- =============================================================== counting

/-- The details of failed trials, each by its index: the trial and the error are
those at that index. -/
def Setup.Details (setup : Setup σ) (scheme : Scheme) (iterations : Int) (state : σ) (k : Nat)
    (f : Failure) : Prop :=
  ∃ e, setup.FailsWith scheme iterations (setup.drawnAt scheme state k) e
    ∧ f = encryptionFailure k (setup.drawnAt scheme state k) e

/-- Details show an error, and neither a ciphertext nor a plaintext. -/
private theorem shows_error_of_details {indices : List Nat} {failures : List Failure}
    (h : List.Forall₂ (setup.Details scheme iterations state) indices failures) :
    ∀ f ∈ failures, f.error ≠ none ∧ f.ciphertext = "<error>" ∧ f.decrypted = "<error>" := by
  induction h with
  | nil => exact fun f hf => absurd hf List.not_mem_nil
  | cons hfirst _ ih =>
      intro f hf
      rcases List.mem_cons.1 hf with rfl | hf
      · obtain ⟨e, -, rfl⟩ := hfirst
        exact ⟨Option.some_ne_none _, rfl, rfl⟩
      · exact ih f hf

/-- A count of the first trials of a run in which the failed ones are those with
the given indices. The details are related to indices one by one, so that
their number and order need no field of their own. -/
structure Tally.Counts (setup : Setup σ) (scheme : Scheme) (iterations limit : Int) (state : σ)
    (trials : Nat) (failed : List Nat) (count : Tally) : Prop where
  ascending : failed.Pairwise (· < ·)
  mem_iff : ∀ k, k ∈ failed ↔ k < trials
    ∧ ∃ e, setup.FailsWith scheme iterations (setup.drawnAt scheme state k) e
  passed_add_failed : count.passed + count.failed = trials
  failed_eq : count.failed = failed.length
  failures : List.Forall₂ (setup.Details scheme iterations state) (failed.take limit.toNat)
    count.failures

variable {trials : Nat} {failed : List Nat} {count : Tally}

private theorem Tally.counts_nil (setup : Setup σ) (scheme : Scheme) (iterations limit : Int)
    (state : σ) :
    Counts setup scheme iterations limit state 0 [] {} where
  ascending := List.Pairwise.nil
  mem_iff k := ⟨fun h => absurd h List.not_mem_nil, fun h => absurd h.1 (Nat.not_lt_zero k)⟩
  passed_add_failed := rfl
  failed_eq := rfl
  failures := by
    rw [List.take_nil]
    exact .nil

/-- A further trial that passes: nothing is added to the failed ones, and it is
not among them. -/
private theorem Tally.Counts.add_of_passed
    (h : Counts setup scheme iterations limit state trials failed count)
    {o : Outcome} (hpassed : o.passed = true)
    (hnot : ∀ e, ¬ setup.FailsWith scheme iterations (setup.drawnAt scheme state trials) e) :
    Counts setup scheme iterations limit state (trials + 1) failed
      (count.add limit trials (setup.drawnAt scheme state trials) o) := by
  rw [Tally.add, if_pos hpassed]
  refine ⟨h.ascending, fun k => ?_, ?_, h.failed_eq, h.failures⟩
  · rw [h.mem_iff]
    constructor
    · rintro ⟨hk, hfails⟩
      exact ⟨by omega, hfails⟩
    · rintro ⟨hk, e, hfails⟩
      have hne : k ≠ trials := by
        rintro rfl
        exact hnot e hfails
      exact ⟨by omega, e, hfails⟩
  · have := h.passed_add_failed
    simp only
    omega

/-- Entries of which the first so many are kept: one more entry is kept if there is
room for it, and otherwise those that are kept stay. -/
private theorem forall₂_take_concat {α β : Type} {R : α → β → Prop} {xs : List α} {ys : List β}
    (h : List.Forall₂ R (xs.take limit.toNat) ys) {x : α} {y : β} (hxy : R x y) :
    List.Forall₂ R ((xs ++ [x]).take limit.toNat)
      (if (ys.length : Int) < limit then ys ++ [y] else ys) := by
  have hlength := h.length_eq
  rw [List.length_take] at hlength
  by_cases hroom : (ys.length : Int) < limit
  · -- room for one more means that all before it were kept
    rw [List.take_of_length_le (by omega)] at h
    have hlonger : (xs ++ [x]).length ≤ limit.toNat := by
      rw [List.length_append, List.length_singleton]
      omega
    rw [if_pos hroom, List.take_of_length_le hlonger]
    exact List.rel_append h (.cons hxy .nil)
  · -- without room the first ones are the same as before
    rw [if_neg hroom, List.take_append_of_le_length (by omega)]
    exact h

/-- A further trial whose encryption fails: its index is the last, and its details
are kept if there is room. -/
private theorem Tally.Counts.add_of_failsWith
    (h : Counts setup scheme iterations limit state trials failed count) {e : Error}
    (hfails : setup.FailsWith scheme iterations (setup.drawnAt scheme state trials) e) :
    Counts setup scheme iterations limit state (trials + 1) (failed ++ [trials])
      (count.add limit trials (setup.drawnAt scheme state trials)
        ⟨[], [], false, some e⟩) := by
  rw [Tally.add, if_neg Bool.false_ne_true]
  refine ⟨?_, fun k => ?_, ?_, ?_, ?_⟩
  · rw [List.pairwise_append]
    refine ⟨h.ascending, List.pairwise_singleton _ _, fun k hk j hj => ?_⟩
    rw [List.mem_singleton] at hj
    have := ((h.mem_iff k).1 hk).1
    omega
  · rw [List.mem_append, List.mem_singleton, h.mem_iff]
    constructor
    · rintro (⟨hk, hkfails⟩ | rfl)
      · exact ⟨by omega, hkfails⟩
      · exact ⟨by omega, e, hfails⟩
    · rintro ⟨hk, hkfails⟩
      by_cases hlast : k = trials
      · exact Or.inr hlast
      · exact Or.inl ⟨by omega, hkfails⟩
  · have := h.passed_add_failed
    simp only
    omega
  · rw [List.length_append, List.length_singleton, ← h.failed_eq]
  · exact forall₂_take_concat h.failures ⟨e, hfails, rfl⟩

-- ================================================================= series

private theorem roundTrips_of_error {setup : Setup σ} {scheme : Scheme} {iterations : Int}
    {state : σ}
    {e : Error}
    (h : setup.identifier scheme iterations (setup.drawnAt scheme state 0) = .error e)
    (limit : Int) (trials index : Nat) (count : Tally) :
    roundTrips setup scheme iterations limit (trials + 1) index state count = .error e := by
  cases hdraw : drawTrial setup.generator scheme state with
  | mk t next =>
      rw [Setup.drawnAt, hdraw] at h
      rw [roundTrips, hdraw]
      simp only [h]

/-- A trial with an identifier is counted before the others. -/
private theorem roundTrips_of_ok {setup : Setup σ} {scheme : Scheme} {iterations : Int} {state : σ}
    {a : Identifier}
    (h : setup.identifier scheme iterations (setup.drawnAt scheme state 0) = .ok a)
    (limit : Int) (trials index : Nat) (count : Tally) :
    roundTrips setup scheme iterations limit (trials + 1) index state count
      = roundTrips setup scheme iterations limit trials (index + 1)
          (drawTrial setup.generator scheme state).2
          (count.add limit index (setup.drawnAt scheme state 0)
            (attempt setup.settings scheme a (setup.drawnAt scheme state 0))) := by
  cases hdraw : drawTrial setup.generator scheme state with
  | mk t next =>
      rw [Setup.drawnAt, hdraw] at h
      rw [roundTrips, Setup.drawnAt, hdraw]
      simp only [h]

/-- One more trial comes after the others. By induction from the front, where the
loop begins: a trial without an identifier ends both sides. -/
private theorem roundTrips_succ (setup : Setup σ) (scheme : Scheme) (iterations limit : Int)
    (trials index : Nat) (state : σ) (count : Tally) :
    roundTrips setup scheme iterations limit (trials + 1) index state count
      = (do
          let count ← roundTrips setup scheme iterations limit trials index state count
          let a ← setup.identifier scheme iterations (setup.drawnAt scheme state trials)
          return count.add limit (index + trials) (setup.drawnAt scheme state trials)
            (attempt setup.settings scheme a (setup.drawnAt scheme state trials))) := by
  induction trials generalizing index state count with
  | zero =>
      cases h : setup.identifier scheme iterations (setup.drawnAt scheme state 0) with
      | error e =>
          rw [roundTrips_of_error h]
          rfl
      | ok a =>
          rw [roundTrips_of_ok h]
          rfl
  | succ trials ih =>
      cases h : setup.identifier scheme iterations (setup.drawnAt scheme state 0) with
      | error e =>
          rw [roundTrips_of_error h, roundTrips_of_error h]
          rfl
      | ok a =>
          rw [roundTrips_of_ok h, roundTrips_of_ok h, ih, Nat.add_right_comm, Nat.add_assoc]
          rfl

/-- A series of trials that have identifiers counts as failed those whose
encryption fails. The step is the last trial, which is counted by one of the
two lemmas on the invariant. -/
theorem exists_roundTrips (setup : Setup σ) (scheme : Scheme) (iterations limit : Int) (state : σ)
    (n : Nat)
    (hidentifier : 1 ≤ n → (∃ s, setup.settings = .ok s) ∧ 1 ≤ iterations) :
    ∃ count failed, roundTrips setup scheme iterations limit n 0 state {} = .ok count
      ∧ Tally.Counts setup scheme iterations limit state n failed count := by
  induction n with
  | zero => exact ⟨{}, [], rfl, Tally.counts_nil setup scheme iterations limit state⟩
  | succ n ih =>
      obtain ⟨count, failed, hcount, hcounts⟩ := ih fun _ => hidentifier (by omega)
      obtain ⟨a, ha⟩ := (exists_identifier_iff setup scheme iterations
        (setup.drawnAt scheme state n)).2 (hidentifier (by omega))
      rw [roundTrips_succ, hcount, ok_bind, ha, ok_bind, Nat.zero_add]
      cases henc : encrypt setup.settings a (setup.drawnAt scheme state n).password
          (setup.drawnAt scheme state n).plaintext with
      | error e =>
          rw [attempt_of_error henc]
          exact ⟨_, _, rfl, hcounts.add_of_failsWith ⟨a, ha, henc⟩⟩
      | ok ciphertext =>
          refine ⟨_, _, rfl, hcounts.add_of_passed (attempt_of_ok henc) ?_⟩
          rintro e ⟨a', ha', hfails⟩
          rw [ha] at ha'
          cases ha'
          rw [henc] at hfails
          cases hfails

/-- If every trial fails, as many are counted: the indices are all those below the
number of trials, without repetition. -/
private theorem Tally.Counts.failed_eq_of_forall
    (h : Counts setup scheme iterations limit state trials failed count)
    (hall : ∀ k < trials, ∃ e,
      setup.FailsWith scheme iterations (setup.drawnAt scheme state k) e) :
    count.failed = trials := by
  have hsubset : List.range trials ⊆ failed := by
    intro k hk
    rw [List.mem_range] at hk
    exact (h.mem_iff k).2 ⟨hk, hall k hk⟩
  have hle := (List.subperm_of_subset List.nodup_range hsubset).length_le
  rw [List.length_range, ← h.failed_eq] at hle
  have := h.passed_add_failed
  omega

-- ================================================================== runs

/-- The report of a count. -/
def reportOf (scheme : Scheme) (trials seed iterations : Int) (count : Tally) :
    RoundTripReport where
  family := scheme.name
  identifier := scheme.identifier
  blockSize := scheme.blockSize
  iterations := some iterations
  total := trials
  passed := count.passed
  failed := count.failed
  failures := count.failures
  seed := seed

/-- A run whose trials are counted ends with their report. -/
theorem runRoundTrip_of_ok {family : String} {trials : Int} (setup : Setup σ) (seed : Int)
    (log : Log) (hscheme : Scheme.byName family = .ok scheme)
    (hcount : roundTrips setup scheme iterations limit trials.toNat 0 (setup.start seed) {}
      = .ok count) :
    ∃ later, (runRoundTrip setup family trials seed iterations limit).run.run log
      = (.ok (reportOf scheme trials seed iterations count), later) := by
  rw [runRoundTrip, run_lift_bind_of_ok hscheme, run_lift_bind_of_ok hcount]
  by_cases hfailed : count.failed = 0
  · rw [if_neg (not_not_intro hfailed)]
    exact ⟨_, rfl⟩
  · rw [if_pos hfailed]
    exact ⟨_, rfl⟩

/-- A run with a trial that has no identifier fails with the reason. -/
theorem runRoundTrip_of_error {family : String} {trials : Int} (setup : Setup σ)
    (seed limit : Int) (log : Log) {e : Error} (hscheme : Scheme.byName family = .ok scheme)
    (htrials : 1 ≤ trials)
    (h : setup.identifier scheme iterations (setup.drawnAt scheme (setup.start seed) 0)
      = .error e) :
    (runRoundTrip setup family trials seed iterations limit).run.run log = (.error e, log) := by
  obtain ⟨n, hn⟩ : ∃ n, trials.toNat = n + 1 := ⟨trials.toNat - 1, by omega⟩
  have hseries : roundTrips setup scheme iterations limit trials.toNat 0 (setup.start seed) {}
      = .error e := by
    rw [hn, roundTrips_of_error h]
  rw [runRoundTrip, run_lift_bind_of_ok hscheme]
  exact run_lift_bind_of_error hseries

/-- A run ends with the report of a count, or fails: for a family without a
scheme, or because its first trial has no identifier. Identifiers are there
for all trials or for none, so the first decides. -/
theorem runRoundTrip_cases (setup : Setup σ) (family : String) (trials seed iterations limit : Int)
    (log : Log) :
    (∃ scheme, Scheme.byName family = .ok scheme
        ∧ (1 ≤ trials → (∃ s, setup.settings = .ok s) ∧ 1 ≤ iterations)
        ∧ ∃ count failed later,
          (runRoundTrip setup family trials seed iterations limit).run.run log
              = (.ok (reportOf scheme trials seed iterations count), later)
            ∧ Tally.Counts setup scheme iterations limit (setup.start seed) trials.toNat failed
              count)
      ∨ ∃ e, (runRoundTrip setup family trials seed iterations limit).run.run log = (.error e, log)
        ∧ (Scheme.byName family = .error e
          ∨ ∃ scheme, Scheme.byName family = .ok scheme ∧ 1 ≤ trials
            ∧ setup.identifier scheme iterations (setup.drawnAt scheme (setup.start seed) 0)
              = .error e) := by
  cases hscheme : Scheme.byName family with
  | error e =>
      refine Or.inr ⟨e, ?_, Or.inl rfl⟩
      rw [runRoundTrip, run_lift_bind_of_error hscheme]
  | ok scheme =>
      by_cases hready : 1 ≤ trials → (∃ s, setup.settings = .ok s) ∧ 1 ≤ iterations
      · obtain ⟨count, failed, hcount, hcounts⟩ := exists_roundTrips setup scheme iterations limit
          (setup.start seed) trials.toNat fun h => hready (by omega)
        obtain ⟨later, hrun⟩ := runRoundTrip_of_ok setup seed log hscheme hcount
        exact Or.inl ⟨scheme, rfl, hready, count, failed, later, hrun, hcounts⟩
      · obtain ⟨htrials, hnot⟩ := Classical.not_imp.1 hready
        rw [← exists_identifier_iff setup scheme iterations
          (setup.drawnAt scheme (setup.start seed) 0)] at hnot
        cases h : setup.identifier scheme iterations
            (setup.drawnAt scheme (setup.start seed) 0) with
        | ok a => exact absurd ⟨a, h⟩ hnot
        | error e =>
            exact Or.inr ⟨e, runRoundTrip_of_error setup seed limit log hscheme htrials h,
              Or.inr ⟨scheme, rfl, htrials, h⟩⟩

/-- Whatever the generator answers, a run reports what happened. It ends
with a report exactly if the family has a scheme and, where there are any
trials, if these have identifiers. The report counts every trial once, and as
failed it counts the trials whose encryption fails and no others; of these it
keeps the first, up to the limit and in ascending order, each with its error
and without a ciphertext and a plaintext to show. What the other trials
encrypt is decrypted to the plaintext, and it is longer and of whole blocks.
A count above the configured maximum fails every trial; of such a count it is
asked that the encoding can state its length. -/
theorem runRoundTrip_exact (setup : Setup σ) (family : String)
    (trials seed iterations limit : Int) (log : Log) :
    ((∃ r later, (runRoundTrip setup family trials seed iterations limit).run.run log
        = (.ok r, later))
      ↔ (∃ scheme, Scheme.byName family = .ok scheme)
        ∧ (1 ≤ trials → (∃ s, setup.settings = .ok s) ∧ 1 ≤ iterations))
    ∧ ∀ r later, (runRoundTrip setup family trials seed iterations limit).run.run log
        = (.ok r, later) →
      ∃ scheme, Scheme.byName family = .ok scheme
        ∧ r.passed + r.failed = max trials 0
        ∧ (∃ failed : List Nat, failed.Pairwise (· < ·)
          ∧ (∀ k : Nat, k ∈ failed ↔ k < trials ∧ ∃ e, setup.FailsWith scheme iterations
              (setup.drawnAt scheme (setup.start seed) k) e)
          ∧ r.failed = failed.length
          ∧ List.Forall₂ (setup.Details scheme iterations (setup.start seed))
              (failed.take limit.toNat) r.failures)
        ∧ (r.failures.length : Int) = min r.failed (max limit 0)
        ∧ (∀ f ∈ r.failures,
            f.error ≠ none ∧ f.ciphertext = "<error>" ∧ f.decrypted = "<error>")
        ∧ (∀ k : Nat, k < trials → ∀ t, t = setup.drawnAt scheme (setup.start seed) k →
            ∃ a, setup.identifier scheme iterations t = .ok a
              ∧ ∀ ciphertext, encrypt setup.settings a t.password t.plaintext = .ok ciphertext →
                decrypt setup.settings a t.password ciphertext = .ok t.plaintext
                  ∧ t.plaintext.length < ciphertext.length
                  ∧ ciphertext.length % scheme.blockSize = 0)
        ∧ ∀ s, setup.settings = .ok s → s.maxIterations < iterations →
            (Der.writeInt iterations).length < Der.lengthBound → r.failed = max trials 0 := by
  rcases runRoundTrip_cases setup family trials seed iterations limit log with
    ⟨scheme, hscheme, hready, count, failed, after, hrun, hcounts⟩ | ⟨e, hrun, hreason⟩
  · rw [hrun]
    refine ⟨⟨fun _ => ⟨⟨scheme, hscheme⟩, hready⟩, fun _ => ⟨_, _, rfl⟩⟩, fun r later h => ?_⟩
    cases h
    have htotal := hcounts.passed_add_failed
    have hfailed := hcounts.failed_eq
    have hlength := hcounts.failures.length_eq
    rw [List.length_take] at hlength
    refine ⟨scheme, hscheme, ?_, ⟨failed, hcounts.ascending, fun k => ?_, ?_, hcounts.failures⟩,
      ?_, fun f hf => ?_, fun k hk t _ => ?_, fun s hs habove hstatable => ?_⟩
    · show (count.passed : Int) + count.failed = max trials 0
      omega
    · rw [hcounts.mem_iff, ← Int.lt_toNat]
    · exact congrArg Nat.cast hfailed
    · show (count.failures.length : Int) = min (count.failed : Int) (max limit 0)
      omega
    · exact shows_error_of_details hcounts.failures f hf
    · obtain ⟨a, ha⟩ := (exists_identifier_iff setup scheme iterations t).2 (hready (by omega))
      exact ⟨a, ha, fun ciphertext henc => ciphertext_facts scheme henc⟩
    · have hall : ∀ k < trials.toNat, ∃ e, setup.FailsWith scheme iterations
          (setup.drawnAt scheme (setup.start seed) k) e := by
        intro k _
        refine exists_failsWith_of_lt hs habove ⟨?_, hstatable⟩
        rw [length_salt_drawnAt]
        decide
      have hevery := hcounts.failed_eq_of_forall hall
      show (count.failed : Int) = max trials 0
      omega
  · rw [hrun]
    refine ⟨⟨?_, ?_⟩, ?_⟩
    · rintro ⟨r, later, h⟩
      cases h
    · rintro ⟨⟨scheme, hscheme⟩, hready⟩
      rcases hreason with h | ⟨scheme', -, htrials, h⟩
      · rw [hscheme] at h
        cases h
      · obtain ⟨a, ha⟩ := (exists_identifier_iff setup scheme' iterations _).2 (hready htrials)
        rw [ha] at h
        cases h
    · intro r later h
      cases h

/-- A generator that answers nothing but zero. -/
def zeros : Generator Unit where
  upTo bound state := (⟨0, Nat.succ_pos bound⟩, state)

/-- Self-checks under the settings that hold without any given, with that
generator. -/
def Setup.standard : Setup Unit where
  settings := .ok Settings.standard
  generator := zeros
  start _ := ()
  memory := .common

/-- Three trials of RC2 with twice the iterations that the settings allow:
all of them fail, and two are kept. -/
theorem runRoundTrip_exact_above :
    ∃ r later,
      (runRoundTrip Setup.standard Scheme.rc2.name 3 7 2000000 2).run.run [] = (.ok r, later)
        ∧ r.passed = 0 ∧ r.failed = 3 ∧ r.failures.length = 2
        ∧ ∀ f ∈ r.failures, f.error ≠ none := by
  obtain ⟨hreturns, hreports⟩ :=
    runRoundTrip_exact Setup.standard Scheme.rc2.name 3 7 2000000 2 []
  obtain ⟨r, later, hrun⟩ := hreturns.2
    ⟨⟨.rc2, Scheme.byName_name .rc2⟩, fun _ => ⟨⟨Settings.standard, rfl⟩, by decide⟩⟩
  obtain ⟨scheme, -, htotal, -, hlength, hshown, -, habove⟩ := hreports r later hrun
  have hstatable : (Der.writeInt 2000000).length < Der.lengthBound :=
    Nat.lt_of_le_of_lt (Der.length_writeNat_le (k := 3) (by decide) (by decide)) (by decide)
  have hfailed := habove Settings.standard rfl (by decide) hstatable
  refine ⟨r, later, hrun, ?_, ?_, ?_, fun f hf => (hshown f hf).1⟩
  · omega
  · omega
  · omega

end Pkcs12.SelfCheck
