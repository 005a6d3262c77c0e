/-
Counts on the command line can be named in a message.

# Invariant

A message can hold an integer of up to so many digits, and so can an argument:
what `readInt` gives is below `Numeral.bound`. The count of a command comes
from an argument, from the settings, or is the one that a self-check has on
its own, and the settings have it from a variable, which is read by the same
rule. So it can be named whatever the arguments are, and a message about it is
never left for its length.

`Choices.Nameable` is the invariant that carries this through the reading of
a command line: the count that was chosen, if any, can be named. It holds
before the first token, and a token keeps it, since an option that is taken up
chooses what is read from its own value and leaves the other choices alone.
`Choices.Nameable.collect` is the induction on the tokens, one case for each
form that a token may have; unlike the laws on options written out in full,
it is about every command line, so it goes through all of them.
`nameable_of_readArguments` puts a command around it.
-/
import Pkcs12.Proofs.Cli.Choices
import Pkcs12.Proofs.Settings.Reading
import Pkcs12.Proofs.Text.Numeral

namespace Pkcs12

-- ============================================================== settings

/-- Settings that are read from an environment have a count that can be
named. -/
theorem Settings.defaultIterations_lt_bound {env : Settings.Environment} {s : Settings}
    (h : env.read = .ok s) : s.defaultIterations < Numeral.bound := by
  have hholds := (Environment.read_eq_ok_iff.1 h).defaultIterations
  rw [Holds.eq_def] at hholds
  split at hholds
  · have hsmall : 2048 < Numeral.bound := by decide +kernel
    omega
  · have hlt := Text.natAbs_lt_bound_of_toInt hholds
    rwa [Int.natAbs_natCast] at hlt

namespace Cli

open Pkcs12.Outcome (bind_eq_ok_iff)

-- ================================================================ values

/-- A value of the command line that can be named as an integer, if there is one. -/
def Given.Nameable (g : Given Int) : Prop :=
  ∀ n, g = .value n → n.natAbs < Numeral.bound

theorem Given.nameable_value {n : Int} (h : n.natAbs < Numeral.bound) :
    (Given.value n).Nameable := by
  rintro m hm
  cases hm
  exact h

private theorem nameable_of_readInt {t : Text} {g : Given Int} (h : readInt t = .ok g) :
    g.Nameable := by
  rintro n rfl
  rw [readInt, Given.read?] at h
  split at h
  · cases h
  · cases hread : t.toInt with
    | error fault =>
        rw [hread] at h
        cases h
    | ok m =>
        rw [hread] at h
        cases h
        exact Text.natAbs_lt_bound_of_toInt hread

-- =============================================================== choices

/-- A count that was chosen can be named. -/
def Choices.Nameable (c : Choices) : Prop :=
  ∀ g, c.iterations = some g → g.Nameable

variable {c c' : Choices}

/-- One more choice that is read from an argument keeps the count nameable. -/
theorem Choices.Nameable.choose (h : c.Nameable) {a : Argument} {x : a.opt.Value}
    (hread : a.read = .ok x) : (c.choose a.opt x).Nameable := by
  obtain ⟨opt, attached, fits⟩ := a
  intro g hg
  -- only the option for the count chooses one
  by_cases hopt : opt = .iterations
  · subst hopt
    cases hg
    cases attached with
    | none => cases fits
    | some t => exact nameable_of_readInt hread
  · exact h g ((c.chosen_choose_of_ne (Ne.symm hopt) x).symm.trans hg)

theorem Choices.Nameable.takeUp (h : c.Nameable) {a : Argument}
    (ha : Argument.takeUp c a = .ok c') : c'.Nameable := by
  obtain ⟨x, hread, rfl⟩ := Argument.takeUp_eq_ok ha
  exact h.choose hread

/-- And so do all tokens together. -/
theorem Choices.Nameable.collect {tokens : List Token} (h : c.Nameable)
    (hc : c.collect tokens = .ok c') : c'.Nameable := by
  fun_induction Choices.collect c tokens with
  | case1 =>
      cases hc
      exact h
  | case2 c o rest htakes ih =>
      obtain ⟨between, hflag, hrest⟩ := bind_eq_ok_iff.1 hc
      exact ih between (h.takeUp (a := ⟨o, none, htakes⟩) hflag) hrest
  | case3 => cases hc
  | case4 c o t rest htakes ih =>
      obtain ⟨between, hvalue, hrest⟩ := bind_eq_ok_iff.1 hc
      exact ih between (h.takeUp (a := ⟨o, some t, htakes⟩) hvalue) hrest
  | case5 c o t rest htakes ih =>
      -- the value is the argument behind the option
      obtain ⟨between, hvalue, hrest⟩ := bind_eq_ok_iff.1 hc
      exact ih between (h.takeUp (a := ⟨o, some t, htakes⟩) hvalue) hrest
  | case6 => cases hc
  | case7 c token rest hother ih => exact ih h hc

-- ============================================================== commands

/-- A command whose count, if it has one, can be named. -/
def Command.Nameable : Command → Prop
  | .families | .decrypt .. => True
  | .encrypt _ _ _ iterations _ => iterations.Nameable
  | .selftest _ _ iterations _ _ => iterations.Nameable

variable {settings : Settings} {verb : Verb} {i : Invocation}

/-- In place of a count that was left open stands one that can be named. -/
theorem Choices.Nameable.getD (h : c.Nameable) {n : Int} (hn : n.natAbs < Numeral.bound) :
    (c.iterations.getD (.value n)).Nameable := by
  cases hcount : c.iterations with
  | none => exact Given.nameable_value hn
  | some g => exact h g hcount

/-- So the commands that such choices make are such commands. -/
theorem Choices.Nameable.nameable_command {command : Command} (h : c.Nameable)
    (hsettings : settings.defaultIterations < Numeral.bound)
    (hcommand : c.command settings verb = .ok command) : command.Nameable := by
  -- the count of a self-check that is given none
  have hsmall : 16 < Numeral.bound := by decide +kernel
  cases verb with
  | families =>
      cases hcommand
      trivial
  | encrypt =>
      obtain ⟨password, -, hcommand⟩ := bind_eq_ok_iff.1 hcommand
      obtain ⟨input, -, hcommand⟩ := bind_eq_ok_iff.1 hcommand
      cases hcommand
      exact h.getD hsettings
  | decrypt =>
      obtain ⟨algorithm, -, hcommand⟩ := bind_eq_ok_iff.1 hcommand
      obtain ⟨password, -, hcommand⟩ := bind_eq_ok_iff.1 hcommand
      obtain ⟨data, -, hcommand⟩ := bind_eq_ok_iff.1 hcommand
      cases hcommand
      trivial
  | selftest =>
      cases hcommand
      exact h.getD hsmall

/-- Whatever the arguments, the count of the command that they make can be
named. -/
theorem nameable_of_readArguments {arguments : List Text}
    (hsettings : settings.defaultIterations < Numeral.bound)
    (h : readArguments settings arguments = .ok i) : i.command.Nameable := by
  -- behind the word of a command, its options are collected from no choices
  have hverb {verb : Verb} {rest : List Text} (h : readVerb settings verb rest = .ok i) :
      i.command.Nameable := by
    rw [readVerb] at h
    split at h
    · cases h
    · obtain ⟨c, hcollect, h⟩ := bind_eq_ok_iff.1 h
      obtain ⟨command, hcommand, h⟩ := bind_eq_ok_iff.1 h
      split at h
      · cases h
      · cases h
        have hopen : Choices.Nameable {} := by
          intro g hg
          cases hg
        exact (Choices.Nameable.collect hopen hcollect).nameable_command hsettings hcommand
  cases arguments with
  | nil => cases h
  | cons t rest =>
      rw [readArguments] at h
      split at h
      · cases h
      · split at h
        · cases h
        · -- an option that is not known leaves no command
          obtain ⟨_, -, h⟩ := bind_eq_ok_iff.1 h
          cases h
        · split at h
          · exact hverb h
          · cases h
        · cases h

end Cli

end Pkcs12
