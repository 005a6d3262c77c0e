/-
Settings: the limits and defaults that the operations consult.

# From values to settings

Settings are made from a draft, whose values are checked all together: every
demand that a value fails is reported, in the order of the fields. A draft that
passes gives a value of `Settings` in which the bounds hold as fields, so
nothing downstream checks them again. No bound relates two fields. In
particular the default count may be above the maximum, and then it is refused
where it is used.

# From the environment

The environment has texts, and four of the values are integers. These are read
first and one after the other, so the first text that is no integer decides
the error (`Environment.draft`); only then are the values checked. All that
can go wrong in either step is an error of the configuration.

# The cache

Settings are read once and kept until they are given up. `Cache` is the state
of that, with the environment as it stands beside the settings last read from
it, which may be from an earlier one; a failed reading keeps nothing.
-/
import Pkcs12.Scheme
import Pkcs12.Text.Numeral

namespace Pkcs12

/-- Limits and defaults, with the bounds that they keep. -/
structure Settings where
  maxIterations : Nat
  defaultIterations : Nat
  saltSize : Nat
  defaultFamily : Scheme
  globalSeed : Int
  reportsDirectory : Text
  maxIterations_pos : 1 ≤ maxIterations
  defaultIterations_pos : 1 ≤ defaultIterations
  saltSize_pos : 1 ≤ saltSize
  saltSize_le : saltSize ≤ 64
deriving DecidableEq, Repr

namespace Settings

-- ============================================================= drafts

/-- Values for settings that are not checked yet. Those not given have
defaults. -/
structure Draft where
  maxIterations : Int := 1000000
  defaultIterations : Int := 2048
  saltSize : Int := 8
  defaultFamily : Text := Text.ofString Scheme.tripleDes.name
  globalSeed : Int := 1337
  reportsDirectory : Text := Text.ofString "reports"

/-- The demands that the values of a draft fail, in the order of the
fields. -/
def Draft.refusals (d : Draft) : List Refusal :=
  let demand := fun (ok : Bool) (field : Field) (wanted : Demand) =>
    if ok then [] else [Refusal.mk field wanted]
  demand (1 ≤ d.maxIterations) .maxIterations .atLeast
    ++ demand (1 ≤ d.defaultIterations) .defaultIterations .atLeast
    ++ demand (1 ≤ d.saltSize) .saltSize .atLeast
    ++ demand (d.saltSize ≤ 64) .saltSize .atMost
    ++ demand (Scheme.ofText? d.defaultFamily).isSome .defaultFamily .oneOf

/-- The settings with the values of a draft, or the demands that the values fail. -/
def ofDraft (d : Draft) : Except (List Refusal) Settings :=
  match Scheme.ofText? d.defaultFamily with
  | none => .error d.refusals
  | some family =>
    if h : 1 ≤ d.maxIterations ∧ 1 ≤ d.defaultIterations ∧ 1 ≤ d.saltSize ∧ d.saltSize ≤ 64 then
      .ok
        { maxIterations := d.maxIterations.toNat
          defaultIterations := d.defaultIterations.toNat
          saltSize := d.saltSize.toNat
          defaultFamily := family
          globalSeed := d.globalSeed
          reportsDirectory := d.reportsDirectory
          maxIterations_pos := by omega
          defaultIterations_pos := by omega
          saltSize_pos := by omega
          saltSize_le := by omega }
    else .error d.refusals

-- ======================================================== environment

/-- The variables that settings are read from, each possibly unset. -/
structure Environment where
  maxIterations : Option Text := none
  defaultIterations : Option Text := none
  saltSize : Option Text := none
  defaultFamily : Option Text := none
  globalSeed : Option Text := none
  reportsDirectory : Option Text := none
deriving DecidableEq, Repr

/-- The integer a variable holds, or its default when unset. -/
def integer (value : Option Text) (default : Int) : Except Error Int :=
  match value with
  | none => .ok default
  | some t =>
    match t.toInt with
    | .ok n => .ok n
    | .error .malformed => .error (.configuration (.integer t))
    | .error (.tooLong digits) => .error (.configuration (.longInteger digits))

/-- The draft that an environment describes. The first variable that is no
integer decides the error. -/
def Environment.draft (env : Environment) : Except Error Draft := do
  let base : Draft := {}
  let maxIterations ← integer env.maxIterations base.maxIterations
  let defaultIterations ← integer env.defaultIterations base.defaultIterations
  let saltSize ← integer env.saltSize base.saltSize
  let globalSeed ← integer env.globalSeed base.globalSeed
  return {
    maxIterations, defaultIterations, saltSize, globalSeed
    defaultFamily := env.defaultFamily.getD base.defaultFamily
    reportsDirectory := env.reportsDirectory.getD base.reportsDirectory }

/-- The settings that an environment describes. -/
def Environment.read (env : Environment) : Except Error Settings := do
  let draft ← env.draft
  match ofDraft draft with
  | .ok s => return s
  | .error refusals => throw (.configuration (.refused refusals))

-- ============================================================== source

/-- Where an operation gets its settings: either settings are at hand, or
reading them failed, which is then the operation's failure at the point
where it consults them. -/
abbrev Source := Except Error Settings

-- =============================================================== cache

/-- The environment as it stands, and the settings last read from one. -/
structure Cache where
  environment : Environment
  held : Option Settings := none

namespace Cache

/-- The environment changes; settings already read stay. -/
def setEnvironment (c : Cache) (env : Environment) : Cache :=
  { c with environment := env }

/-- The settings already read are given up. -/
def clear (c : Cache) : Cache :=
  { c with held := none }

/-- The settings already read, or else those of the environment, which are
kept from then on if there are any. -/
def load (c : Cache) : Source × Cache :=
  match c.held with
  | some s => (.ok s, c)
  | none =>
    match c.environment.read with
    | .ok s => (.ok s, { c with held := some s })
    | .error e => (.error e, c)

end Cache

end Settings

end Pkcs12
