/-
Computations that may fail and keep a log, begun with some log.

# How they run

A computation of this kind is run from a log and ends in a log, with a result
or with an error. A chain of two goes on with the log that its first link
leaves, or stops there with the error *and* that log: what was written before
a failure stays written. What only may fail leaves the log alone, and an
error that is caught is handled with the log at the point where it arose.

The laws below say this for one link each, so that a run is taken apart from
its front by rewriting. They are stated for `x.run.run log`, the form in
which all runs of the self-checks and of the command line stand.
-/
import Pkcs12.Log

namespace Pkcs12.Logged

variable {α β : Type} {x : Logged α} {f : α → Logged β} {log later : Log}

private theorem run_lift (log : Log) (x : Except Error α) :
    (liftM x : Logged α).run.run log = (x, log) := rfl

theorem run_bind_of_ok {a : α} (h : x.run.run log = (.ok a, later)) :
    (x >>= f).run.run log = (f a).run.run later := by
  show ((x.run >>= ExceptT.bindCont f).run log) = _
  rw [StateT.run_bind, h]
  rfl

theorem run_bind_of_error {e : Error} (h : x.run.run log = (.error e, later)) :
    (x >>= f).run.run log = (.error e, later) := by
  show ((x.run >>= ExceptT.bindCont f).run log) = _
  rw [StateT.run_bind, h]
  rfl

/-- What is made of a result is made of it with the same log. -/
theorem run_map_of_ok {g : α → β} {a : α} (h : x.run.run log = (.ok a, later)) :
    (g <$> x).run.run log = (.ok (g a), later) := by
  rw [← bind_pure_comp, run_bind_of_ok h]
  rfl

theorem run_map_of_error {g : α → β} {e : Error} (h : x.run.run log = (.error e, later)) :
    (g <$> x).run.run log = (.error e, later) := by
  rw [← bind_pure_comp, run_bind_of_error h]

variable {y : Except Error α}

theorem run_lift_bind_of_ok {a : α} (h : y = .ok a) :
    ((liftM y : Logged α) >>= f).run.run log = (f a).run.run log :=
  run_bind_of_ok ((run_lift log y).trans (by rw [h]))

theorem run_lift_bind_of_error {e : Error} (h : y = .error e) :
    ((liftM y : Logged α) >>= f).run.run log = (.error e, log) :=
  run_bind_of_error ((run_lift log y).trans (by rw [h]))

variable {handle : Error → Logged α}

/-- What succeeds is not handled. -/
theorem run_tryCatch_of_ok {x : Logged α} {a : α} (h : x.run.run log = (.ok a, later)) :
    (tryCatch x handle).run.run log = (.ok a, later) := by
  simp only [tryCatch, tryCatchThe, MonadExceptOf.tryCatch, ExceptT.tryCatch, ExceptT.run_mk,
    StateT.run_bind]
  rw [ExceptT.run] at h
  rw [h]
  rfl

/-- What fails is handled with the log that it leaves. -/
theorem run_tryCatch_of_error {x : Logged α} {e : Error} (h : x.run.run log = (.error e, later)) :
    (tryCatch x handle).run.run log = (handle e).run.run later := by
  simp only [tryCatch, tryCatchThe, MonadExceptOf.tryCatch, ExceptT.tryCatch, ExceptT.run_mk,
    StateT.run_bind]
  rw [ExceptT.run] at h
  rw [h]
  rfl

end Pkcs12.Logged
