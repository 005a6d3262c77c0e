/-
The settings cache over whole runs. Environments change, settings are given up
and settings are loaded, in any order, and what a load answers depends on all
of it.

# The invariant

Besides its environment a run remembers the settings it holds, and the
invariant says where they are from: the first load that succeeded since
settings were last given up, and the environment as it stood then
(`FirstLoaded`). While no load has succeeded since, nothing is held, and the
next load reads the environment (`NothingLoaded`). Both are stated by the
steps of the run, as a decomposition into what was before a load and what came
after it; `held_after` says that the cache holds just these settings, and
holds nothing just then.

# Taking runs apart at their end

The last step alone decides what the invariant says anew, while at its front
a run says nothing about what is held. So the induction is from the end, and
one lemma for each part of the invariant tells what a step adds to it
(`nothingLoaded_concat_iff`, `firstLoaded_concat_iff`). Both rest on
`concat_eq_append_load_iff`: a load in a run with one more step is that step
or a load before it.

What a load does to the cache is said by a few laws on a single cache, before
any run: what it answers is held from then on, and a load that fails leaves
the cache as it was.

# What is concluded

`answer_after` puts these together: which settings a load answers, that they
are within their bounds, why it fails if it fails, and that it can be tried
again.
-/
import Mathlib.Data.List.Induction
import Pkcs12.Proofs.Settings
import Pkcs12.Proofs.Settings.Reading

namespace Pkcs12.Settings.Cache

-- ================================================================= runs

/-- One step of a run. -/
inductive Step where
  | setEnvironment (env : Environment)
  | clear
  | load
deriving DecidableEq, Repr

/-- The cache after a step. -/
def perform (c : Cache) : Step → Cache
  | .setEnvironment env => c.setEnvironment env
  | .clear => c.clear
  | .load => c.load.2

/-- The cache after steps from the start, when nothing is held. -/
def after (env : Environment) (steps : List Step) : Cache :=
  steps.foldl perform { environment := env }

/-- What a load answers that comes next. -/
def answer (env : Environment) (steps : List Step) : Source :=
  (after env steps).load.1

/-- The environment as it stands after steps: the last one that was set, whatever
was loaded or given up in between. -/
def standing (env : Environment) : List Step → Environment
  | [] => env
  | .setEnvironment env :: steps => standing env steps
  | .clear :: steps => standing env steps
  | .load :: steps => standing env steps

/-- No load has succeeded since settings were last given up: every load that is
not followed by such a step has failed. -/
def NothingLoaded (env : Environment) (steps : List Step) : Prop :=
  ∀ earlier later, steps = earlier ++ .load :: later → .clear ∉ later →
    ∃ e, answer env earlier = .error e

/-- The settings are those of the environment as it stood at the first load
that succeeded since settings were last given up. -/
def FirstLoaded (env : Environment) (steps : List Step) (s : Settings) : Prop :=
  ∃ earlier later, steps = earlier ++ .load :: later ∧ .clear ∉ later
    ∧ NothingLoaded env earlier ∧ (standing env earlier).read = .ok s

-- ============================================================== one step

variable {env : Environment} {steps : List Step} {step : Step} {s : Settings}

@[simp] theorem held_setEnvironment (c : Cache) (env : Environment) :
    (c.perform (.setEnvironment env)).held = c.held := rfl

@[simp] theorem held_clear (c : Cache) : (c.perform .clear).held = none := rfl

@[simp] theorem after_concat (env : Environment) (steps : List Step) (step : Step) :
    after env (steps ++ [step]) = (after env steps).perform step :=
  List.foldl_append

theorem standing_append (env : Environment) (steps more : List Step) :
    standing env (steps ++ more) = standing (standing env steps) more := by
  induction steps generalizing env with
  | nil => rfl
  | cons step steps ih => cases step <;> exact ih _

/-- The environment of the cache is the standing one; a load reads it and leaves
it. -/
theorem environment_after (env : Environment) (steps : List Step) :
    (after env steps).environment = standing env steps := by
  induction steps using List.reverseRecOn with
  | nil => rfl
  | append_singleton steps step ih =>
      rw [after_concat, standing_append]
      cases step with
      | setEnvironment env => rfl
      | clear => exact ih
      | load =>
          show (after env steps).load.2.environment = standing env steps
          rw [load]
          split
          next => exact ih
          next => split <;> exact ih

/-- With nothing held a load answers what the environment describes. -/
private theorem load_of_held_eq_none {c : Cache} (h : c.held = none) :
    c.load.1 = c.environment.read := by
  rw [load, h]
  cases c.environment.read <;> rfl

/-- What a load answers is held from then on, whether it was held before or has
just been read. -/
private theorem held_load_eq_some_iff {c : Cache} : c.load.2.held = some s ↔ c.load.1 = .ok s := by
  rw [load]
  split
  next s' hheld => rw [hheld, Option.some.injEq, Except.ok.injEq]
  next hheld =>
    split
    next s' hread => rw [Option.some.injEq, Except.ok.injEq]
    next e hread =>
      rw [hheld]
      exact ⟨fun h => (nomatch h), fun h => (nomatch h)⟩

/-- Nothing is held after a load exactly if it fails; a load never gives settings
up. -/
private theorem held_load_eq_none_iff {c : Cache} :
    c.load.2.held = none ↔ ∃ e, c.load.1 = .error e := by
  constructor
  · intro h
    cases hanswer : c.load.1 with
    | ok s =>
        rw [held_load_eq_some_iff.2 hanswer] at h
        cases h
    | error e => exact ⟨e, rfl⟩
  · rintro ⟨e, he⟩
    cases hheld : c.load.2.held with
    | none => rfl
    | some s =>
        rw [held_load_eq_some_iff.1 hheld] at he
        cases he

/-- A load that fails leaves the cache as it was, so it can be repeated. -/
private theorem load_of_error {c : Cache} {e : Error} (h : c.load.1 = .error e) : c.load.2 = c := by
  rw [load] at h ⊢
  split at h
  next => cases h
  next =>
    split at h
    next => cases h
    next => rfl

/-- A load in a run with one more step is that step, or a load before it. -/
private theorem concat_eq_append_load_iff {earlier later : List Step} :
    steps ++ [step] = earlier ++ .load :: later
      ↔ (later = [] ∧ steps = earlier ∧ step = .load)
        ∨ ∃ between, later = between ++ [step] ∧ steps = earlier ++ .load :: between := by
  rcases List.eq_nil_or_concat later with rfl | ⟨between, last, rfl⟩
  · rw [List.append_singleton_inj]
    constructor
    · exact fun h => Or.inl ⟨rfl, h⟩
    · rintro (⟨-, h⟩ | ⟨between, h, -⟩)
      · exact h
      · cases between <;> cases h
  · rw [List.concat_eq_append, ← List.cons_append, ← List.append_assoc,
      List.append_singleton_inj]
    constructor
    · rintro ⟨hsteps, rfl⟩
      exact Or.inr ⟨between, rfl, hsteps⟩
    · rintro (⟨h, -⟩ | ⟨between', h, hsteps⟩)
      · cases between <;> cases h
      · obtain ⟨rfl, rfl⟩ := List.append_singleton_inj.1 h
        exact ⟨hsteps, rfl⟩

/-- After one more step nothing is loaded if nothing was, and if the step is
no load that succeeds; or because the step gives settings up. -/
private theorem nothingLoaded_concat_iff :
    NothingLoaded env (steps ++ [step])
      ↔ (step = .load → ∃ e, answer env steps = .error e)
        ∧ (step ≠ .clear → NothingLoaded env steps) := by
  constructor
  · intro h
    refine ⟨fun hload => ?_, fun hclear earlier later hsteps hlater => ?_⟩
    · exact h steps [] (concat_eq_append_load_iff.2 (Or.inl ⟨rfl, rfl, hload⟩)) (List.not_mem_nil)
    · refine h earlier (later ++ [step]) ?_ ?_
      · exact concat_eq_append_load_iff.2 (Or.inr ⟨later, rfl, hsteps⟩)
      · rw [List.mem_append, List.mem_singleton]
        exact fun hmem => hmem.elim hlater fun heq => hclear heq.symm
  · rintro ⟨hload, hbefore⟩ earlier later hsteps hlater
    -- the load that is asked about is the last step or one before it
    rcases concat_eq_append_load_iff.1 hsteps with ⟨-, rfl, hstep⟩ | ⟨between, rfl, hbetween⟩
    · exact hload hstep
    · rw [List.mem_append, List.mem_singleton, not_or] at hlater
      exact hbefore (fun heq => hlater.2 heq.symm) earlier between hbetween hlater.1

/-- After one more step settings are loaded if they were, unless the step
gives them up, and also if the step is the first load that succeeds. -/
private theorem firstLoaded_concat_iff :
    FirstLoaded env (steps ++ [step]) s
      ↔ (step = .load ∧ NothingLoaded env steps ∧ (standing env steps).read = .ok s)
        ∨ (step ≠ .clear ∧ FirstLoaded env steps s) := by
  constructor
  · rintro ⟨earlier, later, hsteps, hlater, hnothing, hread⟩
    rcases concat_eq_append_load_iff.1 hsteps with ⟨-, rfl, hstep⟩ | ⟨between, rfl, hbetween⟩
    · exact Or.inl ⟨hstep, hnothing, hread⟩
    · rw [List.mem_append, List.mem_singleton, not_or] at hlater
      exact Or.inr ⟨fun heq => hlater.2 heq.symm,
        earlier, between, hbetween, hlater.1, hnothing, hread⟩
  · rintro (⟨hstep, hnothing, hread⟩ | ⟨hclear, earlier, later, hsteps, hlater, hnothing, hread⟩)
    · exact ⟨steps, [], concat_eq_append_load_iff.2 (Or.inl ⟨rfl, rfl, hstep⟩), List.not_mem_nil,
        hnothing, hread⟩
    · refine ⟨earlier, later ++ [step], ?_, ?_, hnothing, hread⟩
      · exact concat_eq_append_load_iff.2 (Or.inr ⟨later, rfl, hsteps⟩)
      · rw [List.mem_append, List.mem_singleton]
        exact fun hmem => hmem.elim hlater fun heq => hclear heq.symm

-- ============================================================= invariant

/-- What is held was loaded first, and nothing is held exactly while nothing is
loaded. The two parts are proved together, as a load looks at both: it keeps
what is held and reads where nothing is. -/
theorem held_after (env : Environment) (steps : List Step) :
    ((after env steps).held = none ↔ NothingLoaded env steps)
      ∧ ∀ s, (after env steps).held = some s ↔ FirstLoaded env steps s := by
  induction steps using List.reverseRecOn with
  | nil =>
      refine ⟨⟨fun _ earlier later h => ?_, fun _ => rfl⟩, fun s => ⟨fun h => (nomatch h), ?_⟩⟩
      · exact absurd h.symm (List.append_ne_nil_of_right_ne_nil _ (List.cons_ne_nil _ _))
      · rintro ⟨earlier, later, h, -⟩
        exact absurd h.symm (List.append_ne_nil_of_right_ne_nil _ (List.cons_ne_nil _ _))
  | append_singleton steps step ih =>
      obtain ⟨hnone, hsome⟩ := ih
      simp only [after_concat, nothingLoaded_concat_iff, firstLoaded_concat_iff]
      cases step with
      | setEnvironment env' =>
          refine ⟨?_, fun s => ?_⟩
          · simpa using hnone
          · simpa using hsome s
      | clear =>
          refine ⟨?_, fun s => ?_⟩
          · simp
          · simp
      | load =>
          refine ⟨?_, fun s => ?_⟩
          · -- nothing is held after a load if it fails, and it fails only if nothing
            -- was held before
            rw [perform, held_load_eq_none_iff]
            refine ⟨fun h => ⟨fun _ => h, fun _ => ?_⟩, fun h => h.1 rfl⟩
            obtain ⟨e, he⟩ := h
            rw [← hnone, ← load_of_error he]
            exact held_load_eq_none_iff.2 ⟨e, he⟩
          · -- settings are held after a load if they were held, or if nothing was and
            -- the environment describes them
            rw [perform, held_load_eq_some_iff, ← hnone, ← hsome, ← environment_after]
            cases hheld : (after env steps).held with
            | none => simp [load_of_held_eq_none hheld]
            | some s' => simp [load, hheld]

-- ================================================================ loads

/-- A load answers the settings that are loaded first, itself counted. -/
theorem answer_eq_ok_iff : answer env steps = .ok s ↔ FirstLoaded env (steps ++ [.load]) s := by
  rw [← (held_after env (steps ++ [Step.load])).2 s, after_concat]
  exact held_load_eq_some_iff.symm

/-- While nothing is loaded a load reads the environment as it stands. -/
private theorem answer_of_nothingLoaded (h : NothingLoaded env steps) :
    answer env steps = (standing env steps).read := by
  rw [answer, load_of_held_eq_none ((held_after env steps).1.2 h), environment_after]

/-- A load that fails has found nothing loaded. -/
private theorem nothingLoaded_of_answer {e : Error} (h : answer env steps = .error e) :
    NothingLoaded env steps := by
  rw [← (held_after env steps).1, ← load_of_error h]
  exact held_load_eq_none_iff.2 ⟨e, h⟩

/-- Environments that change load nothing, however many there are. -/
theorem NothingLoaded.setEnvironment (h : NothingLoaded env steps) (changes : List Environment) :
    NothingLoaded env (steps ++ changes.map .setEnvironment) := by
  induction changes generalizing steps with
  | nil => rwa [List.map_nil, List.append_nil]
  | cons change changes ih =>
      rw [List.map_cons, List.append_cons]
      exact ih (nothingLoaded_concat_iff.2 ⟨fun hload => (nomatch hload), fun _ => h⟩)

/-- Loads in a run of any steps. A load answers settings exactly if they are
those of the environment as it stood at the first load that succeeded since
settings were last given up, be that this load or an earlier one, and all
settings are within their bounds. A load that finds nothing loaded answers
the settings that the environment describes, and if there are none it fails,
for no other reason than the configuration: a variable that is no integer,
or values that are refused, of which there is one at least. Every load that
fails is of this kind. A load that fails changes nothing: after it, and after any changes of
the environment, the next load reads the environment again. -/
theorem answer_after (env : Environment) (steps : List Step) :
    (∀ s, answer env steps = .ok s ↔ FirstLoaded env (steps ++ [.load]) s)
      ∧ (∀ s, answer env steps = .ok s → 1 ≤ s.maxIterations ∧ 1 ≤ s.defaultIterations
          ∧ 1 ≤ s.saltSize ∧ s.saltSize ≤ 64 ∧ Scheme.ofName? s.defaultFamily.name
            = some s.defaultFamily)
      ∧ (NothingLoaded env steps →
          (∀ s, answer env steps = .ok s ↔ (standing env steps).Describes s)
            ∧ ((∃ s, answer env steps = .ok s)
              ∨ ∃ fault, answer env steps = .error (.configuration fault)
                ∧ fault ≠ .refused []))
      ∧ ∀ e, answer env steps = .error e →
          NothingLoaded env steps ∧ after env (steps ++ [.load]) = after env steps
            ∧ ∀ changes,
                let later := steps ++ .load :: List.map .setEnvironment changes
                NothingLoaded env later
                  ∧ ∀ s, (standing env later).Describes s → answer env later = .ok s := by
  refine ⟨fun _ => answer_eq_ok_iff, fun s _ => ?_, fun hnothing => ?_, fun e he => ?_⟩
  · exact ⟨s.maxIterations_pos, s.defaultIterations_pos, s.saltSize_pos, s.saltSize_le,
      Scheme.ofName?_eq_some_iff.2 rfl⟩
  · rw [answer_of_nothingLoaded hnothing]
    refine ⟨fun _ => Environment.read_eq_ok_iff, ?_⟩
    cases hread : (standing env steps).read with
    | ok s => exact Or.inl ⟨s, rfl⟩
    | error e =>
        obtain ⟨fault, rfl, hsome⟩ := Environment.exists_fault_of_read hread
        exact Or.inr ⟨fault, rfl, hsome⟩
  · have hnothing := nothingLoaded_of_answer he
    refine ⟨hnothing, ?_, fun changes => ?_⟩
    · rw [after_concat]
      exact load_of_error he
    · have hload : NothingLoaded env (steps ++ [.load]) :=
        nothingLoaded_concat_iff.2 ⟨fun _ => ⟨e, he⟩, fun _ => hnothing⟩
      have hlater := hload.setEnvironment changes
      rw [← List.append_cons] at hlater
      refine ⟨hlater, fun s hs => ?_⟩
      rw [answer_of_nothingLoaded hlater]
      exact Environment.read_eq_ok_iff.2 hs

/-- A load that fails because a count is no number, a valid environment, a
load, and another valid environment: what counts is the first of these. -/
theorem answer_after_failed_load :
    answer { maxIterations := some (Text.ofString "lots") }
        [.load, .setEnvironment { saltSize := some (Text.ofString "16") }, .load,
          .setEnvironment {}]
      = .ok { standard with
        saltSize := 16, saltSize_pos := by decide, saltSize_le := by decide } := by
  have hfails : answer { maxIterations := some (Text.ofString "lots") } []
      = .error (.configuration (.integer (Text.ofString "lots"))) := by
    decide +kernel
  obtain ⟨-, -, -, hretry⟩ := answer_after { maxIterations := some (Text.ofString "lots") } []
  obtain ⟨-, -, hlater⟩ := hretry _ hfails
  obtain ⟨hnothing, -⟩ := hlater [{ saltSize := some (Text.ofString "16") }]
  obtain ⟨hanswer, -⟩ := answer_after { maxIterations := some (Text.ofString "lots") }
    [.load, .setEnvironment { saltSize := some (Text.ofString "16") }, .load, .setEnvironment {}]
  refine (hanswer _).2 ⟨[.load, .setEnvironment { saltSize := some (Text.ofString "16") }],
    [.setEnvironment {}, .load], rfl, by decide, hnothing, ?_⟩
  decide +kernel

end Pkcs12.Settings.Cache
