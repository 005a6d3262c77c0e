/-
From commands to runs: what a direct run makes of the way its command ends.

A run reads its settings, makes a command of the arguments, and carries the
command out. If there is an outcome, it is that of the command
(`start_of_ok`). An error is looked at once: if it can be reported it is
answered, and the run is finished with the exit code for it
(`start_of_reportable`); any other leaves the run (`start_of_not_reportable`).
These three are the cases of a run with a command, and each is about what the
command returns and not about which command it is. What was logged on the way
is not printed by a direct run and does not show.

An exit code of zero is no error's. So `exists_done` reads the three steps off
a run that is finished with zero: there were settings, there was a command,
and it was carried out.
-/
import Pkcs12.Cli.Run
import Pkcs12.Proofs.Log

namespace Pkcs12.Cli

open Logged (run_bind_of_ok run_bind_of_error run_tryCatch_of_ok run_tryCatch_of_error)

variable {world : World} {settings : Settings} {arguments : List Text} {i : Invocation}

/-- A world in which nothing is set. -/
def World.bare : World where
  environment := {}
  now := ⟨2024, 2, 29, 12, 0, 0⟩
  random := fun _ => []
  memory := .common

/-- The outcome of a command that was carried out. -/
def Done.outcome (done : Done) (json : Bool) : Outcome where
  exit := done.exit
  output := done.answer.render json
  files := done.files

/-- A command that is carried out is finished with its outcome, and nothing is
answered in its place. -/
private theorem Invocation.run_of_ok {done : Done} {log later : Log}
    (h : (i.command.run world settings).run.run log = (.ok done, later)) :
    (i.run world settings).run.run log = (.ok (done.outcome i.json), later) := by
  refine run_tryCatch_of_ok ?_
  rw [run_bind_of_ok h]
  rfl

/-- An error that is answered shows in the exit code. -/
private theorem errorExit_ne_zero (e : Error) : errorExit e ≠ 0 := by
  cases e <;> exact Nat.succ_ne_zero _

/-- A command that fails has no outcome with an exit code of zero. -/
private theorem Invocation.run_of_error {e : Error} {log later : Log}
    (h : (i.command.run world settings).run.run log = (.error e, later)) {outcome : Outcome}
    (hrun : ((i.run world settings).run.run log).1 = .ok outcome) : outcome.exit ≠ 0 := by
  rw [Invocation.run, run_tryCatch_of_error (run_bind_of_error h)] at hrun
  -- the error is answered with its exit code, or it is passed on
  split at hrun
  · cases hrun
    exact errorExit_ne_zero e
  · cases hrun

/-- A run whose command is carried out is finished with what that leaves. -/
theorem start_of_ok {done : Done} {later : Log} (hsettings : world.environment.read = .ok settings)
    (hread : readArguments settings arguments = .ok i)
    (hrun : (i.command.run world settings).run.run [] = (.ok done, later)) :
    (start .direct world arguments).1 = .ok (.finished (done.outcome i.json)) := by
  simp only [start, run, hsettings, hread]
  rw [run_bind_of_ok (Invocation.run_of_ok hrun)]
  rfl

/-- What is logged on the way does not change the error of a direct run. -/
private theorem errorAt_warning (e : Error) : errorAt .warning e = e := by
  rw [errorAt.eq_def]
  split
  · rfl
  · rfl

/-- A run whose command fails with an error that can be reported is finished
with the exit code for it. -/
theorem start_of_reportable {e : Error} {later : Log}
    (hsettings : world.environment.read = .ok settings)
    (hread : readArguments settings arguments = .ok i)
    (hrun : (i.command.run world settings).run.run [] = (.error e, later))
    (hreportable : e.isReportable = true) :
    ∃ outcome, (start .direct world arguments).1 = .ok (.finished outcome)
      ∧ outcome.exit = errorExit e := by
  have hend : (i.run world settings).run.run [] = _ :=
    run_tryCatch_of_error (run_bind_of_error hrun)
  rw [if_pos hreportable] at hend
  simp only [start, run, hsettings, hread]
  rw [run_bind_of_ok hend]
  exact ⟨_, rfl, rfl⟩

/-- A run whose command fails with any other error is left by it. -/
theorem start_of_not_reportable {e : Error} {later : Log}
    (hsettings : world.environment.read = .ok settings)
    (hread : readArguments settings arguments = .ok i)
    (hrun : (i.command.run world settings).run.run [] = (.error e, later))
    (hnot : e.isReportable = false) : (start .direct world arguments).1 = .error e := by
  have hend : (i.run world settings).run.run [] = _ :=
    run_tryCatch_of_error (run_bind_of_error hrun)
  rw [hnot, if_neg Bool.false_ne_true] at hend
  simp only [start, run, hsettings, hread]
  rw [run_bind_of_error hend]
  exact congrArg Except.error (errorAt_warning e)

/-- A run that is finished with an exit code of zero has carried out its
command. -/
theorem exists_done {outcome : Outcome}
    (h : (start .direct world arguments).1 = .ok (.finished outcome)) (hexit : outcome.exit = 0) :
    ∃ settings i done later, world.environment.read = .ok settings
      ∧ readArguments settings arguments = .ok i
      ∧ (i.command.run world settings).run.run [] = (.ok done, later)
      ∧ outcome = done.outcome i.json := by
  cases hsettings : world.environment.read with
  | error e =>
      simp only [start, run, hsettings] at h
      cases h
      cases hexit
  | ok settings =>
      cases hread : readArguments settings arguments with
      | error why =>
          simp only [start, run, hsettings, hread] at h
          cases h
      | ok i =>
          rcases hrun : (i.command.run world settings).run.run [] with ⟨e | done, later⟩
          · simp only [start, run, hsettings, hread] at h
            rcases hend : (i.run world settings).run.run [] with ⟨_ | outcome', later'⟩
            · rw [run_bind_of_error hend] at h
              cases h
            · rw [run_bind_of_ok hend] at h
              cases h
              -- an error that was answered
              exact absurd hexit (Invocation.run_of_error hrun (by rw [hend]))
          · rw [start_of_ok hsettings hread hrun] at h
            cases h
            exact ⟨settings, i, done, later, rfl, hread, hrun, rfl⟩

end Pkcs12.Cli
