/-
What settings an environment describes, and that reading it finds them.

# Description

A variable that is unset stands for its default; an integer is what its text
says. `Environment.Describes` states that of the six variables and of the
settings that have their values, without a word on the order of reading. The
bounds on counts and sizes are not among its demands, since all settings are
within them.

# Reading

Settings are described by at most one reading of the variables, so reading is
characterised by an equivalence (`Environment.read_eq_ok_iff`). It goes
through the draft: `Environment.draft_eq_ok_iff` for the texts and their
integers, `ofDraft_eq_ok_iff` for the bounds and the family name. Natural
numbers and integers meet there, as the variables may hold negative integers
and the settings may not.

# Failure

Reading fails for one kind of reason only, that the configuration is at fault:
a text that is no integer, or values that are refused, of which there is one
at least (`Environment.exists_fault_of_read`).
-/
import Pkcs12.Proofs.Outcome
import Pkcs12.Proofs.Scheme
import Pkcs12.Proofs.Settings

namespace Pkcs12.Settings

open Outcome

-- ============================================================= integers

/-- The integer that a variable holds: the one its text denotes, or the
default when it is unset. -/
def Holds (value : Option Text) (default n : Int) : Prop :=
  match value with
  | none => n = default
  | some t => t.toInt = .ok n

variable {value : Option Text} {default n : Int} {d : Draft} {s : Settings} {e : Error}
  {env : Environment}

theorem integer_eq_ok_iff : integer value default = .ok n ↔ Holds value default n := by
  cases value with
  | none => exact ⟨fun h => (Except.ok.inj h).symm, fun h => congrArg Except.ok h.symm⟩
  | some text =>
      rw [integer, Holds]
      split
      next m hm => rw [hm, Except.ok.injEq, Except.ok.injEq]
      next hm =>
        simp only [hm, reduceCtorEq]
      next digits hm =>
        simp only [hm, reduceCtorEq]

/-- A text that is no integer is a fault of the configuration, and no value
is refused for it. -/
private theorem exists_fault_of_integer (h : integer value default = .error e) :
    ∃ fault, e = .configuration fault ∧ fault ≠ .refused [] := by
  cases value with
  | none => cases h
  | some text =>
      -- a text that is no integer, or one with too many digits
      rw [integer] at h
      split at h
      next => cases h
      next =>
        cases h
        exact ⟨_, rfl, fun h => (nomatch h)⟩
      next =>
        cases h
        exact ⟨_, rfl, fun h => (nomatch h)⟩

-- =============================================================== drafts

/-- A draft is accepted as the settings that have its values. From right to left
the bounds of the settings are those that the check asks for. -/
theorem ofDraft_eq_ok_iff :
    ofDraft d = .ok s ↔ (s.maxIterations : Int) = d.maxIterations
      ∧ (s.defaultIterations : Int) = d.defaultIterations ∧ (s.saltSize : Int) = d.saltSize
      ∧ Scheme.ofText? d.defaultFamily = some s.defaultFamily ∧ s.globalSeed = d.globalSeed
      ∧ s.reportsDirectory = d.reportsDirectory := by
  rw [ofDraft]
  constructor
  · intro h
    split at h
    next => cases h
    next family hfamily =>
      split at h
      next hbounds =>
        cases h
        exact ⟨Int.toNat_of_nonneg (by omega), Int.toNat_of_nonneg (by omega),
          Int.toNat_of_nonneg (by omega), hfamily, rfl, rfl⟩
      next => cases h
  · rintro ⟨hmax, hdefault, hsalt, hfamily, hseed, hreports⟩
    have hmaxPos := s.maxIterations_pos
    have hdefaultPos := s.defaultIterations_pos
    have hsaltPos := s.saltSize_pos
    have hsaltLe := s.saltSize_le
    rw [hfamily]
    simp only
    rw [dif_pos (by omega)]
    obtain ⟨max, count, salt, family, seed, reports⟩ := s
    simp only at hmax hdefault hsalt hseed hreports
    simp only [Except.ok.injEq, mk.injEq, true_and]
    exact ⟨by omega, by omega, by omega, hseed.symm, hreports.symm⟩

-- ========================================================= environments

/-- Settings that have the values of an environment's variables. The bounds
on counts and on the salt size are those of all settings. -/
structure Environment.Describes (env : Environment) (s : Settings) : Prop where
  maxIterations : Holds env.maxIterations 1000000 s.maxIterations
  defaultIterations : Holds env.defaultIterations 2048 s.defaultIterations
  saltSize : Holds env.saltSize 8 s.saltSize
  defaultFamily : Text.ofString s.defaultFamily.name
    = env.defaultFamily.getD (Text.ofString Scheme.tripleDes.name)
  globalSeed : Holds env.globalSeed 1337 s.globalSeed
  reportsDirectory : s.reportsDirectory = env.reportsDirectory.getD (Text.ofString "reports")

theorem Environment.draft_eq_ok_iff :
    env.draft = .ok d ↔ Holds env.maxIterations 1000000 d.maxIterations
      ∧ Holds env.defaultIterations 2048 d.defaultIterations ∧ Holds env.saltSize 8 d.saltSize
      ∧ Holds env.globalSeed 1337 d.globalSeed
      ∧ d.defaultFamily = env.defaultFamily.getD (Text.ofString Scheme.tripleDes.name)
      ∧ d.reportsDirectory = env.reportsDirectory.getD (Text.ofString "reports") := by
  simp only [draft, bind_eq_ok_iff, integer_eq_ok_iff]
  constructor
  · rintro ⟨max, hmax, count, hcount, salt, hsalt, seed, hseed, hd⟩
    cases hd
    exact ⟨hmax, hcount, hsalt, hseed, rfl, rfl⟩
  · rintro ⟨hmax, hcount, hsalt, hseed, hfamily, hreports⟩
    refine ⟨_, hmax, _, hcount, _, hsalt, _, hseed, ?_⟩
    cases d
    cases hfamily
    cases hreports
    rfl

/-- Reading an environment gives the settings that it describes. -/
theorem Environment.read_eq_ok_iff : env.read = .ok s ↔ env.Describes s := by
  rw [read, bind_eq_ok_iff]
  constructor
  · rintro ⟨d, hdraft, h⟩
    split at h
    next hs =>
      cases h
      obtain ⟨hmax, hcount, hsalt, hseed, hfamily, hreports⟩ := draft_eq_ok_iff.1 hdraft
      obtain ⟨hmax', hcount', hsalt', hfamily', hseed', hreports'⟩ := ofDraft_eq_ok_iff.1 hs
      rw [← hmax'] at hmax
      rw [← hcount'] at hcount
      rw [← hsalt'] at hsalt
      rw [← hseed'] at hseed
      exact ⟨hmax, hcount, hsalt, (Scheme.ofText?_eq_some_iff.1 hfamily').symm.trans hfamily, hseed,
        hreports'.trans hreports⟩
    next => cases h
  · intro h
    -- the draft is rebuilt from the settings; its texts are determined, since
    -- the family name is the text of the scheme's name
    let d : Draft := {
      maxIterations := s.maxIterations, defaultIterations := s.defaultIterations
      saltSize := s.saltSize, defaultFamily := Text.ofString s.defaultFamily.name
      globalSeed := s.globalSeed, reportsDirectory := s.reportsDirectory }
    have hs : ofDraft d = .ok s :=
      ofDraft_eq_ok_iff.2 ⟨rfl, rfl, rfl, Scheme.ofText?_eq_some_iff.2 rfl, rfl, rfl⟩
    refine ⟨d, draft_eq_ok_iff.2 ⟨h.maxIterations, h.defaultIterations, h.saltSize,
      h.globalSeed, h.defaultFamily, h.reportsDirectory⟩, ?_⟩
    rw [hs]
    rfl

/-- An environment that cannot be read has the configuration at fault; where
values are refused for it, there are some. -/
theorem Environment.exists_fault_of_read (h : env.read = .error e) :
    ∃ fault, e = .configuration fault ∧ fault ≠ .refused [] := by
  rw [read, bind_eq_error_iff] at h
  rcases h with hdraft | ⟨d, -, h⟩
  · simp only [draft, bind_eq_error_iff] at hdraft
    -- one case per variable that holds an integer; the texts cannot fail here
    rcases hdraft with h | ⟨_, -, h | ⟨_, -, h | ⟨_, -, h | ⟨_, -, h⟩⟩⟩⟩
    · exact exists_fault_of_integer h
    · exact exists_fault_of_integer h
    · exact exists_fault_of_integer h
    · exact exists_fault_of_integer h
    · cases h
  · split at h
    next => cases h
    next refusals hrefused =>
      cases h
      refine ⟨_, rfl, fun hnone => ?_⟩
      cases hnone
      exact (ofDraft_eq_error hrefused).2 rfl

end Pkcs12.Settings
