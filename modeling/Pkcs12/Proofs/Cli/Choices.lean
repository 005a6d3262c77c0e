/-
What the options of a command choose.

# Design

The choices are a record with a field for each option, so as they stand every
law about them would be a law for each field. `Opt.Value`, `chosen` and
`choose` make one family of them: `chosen o` reads the choice of the option
`o`, `choose o x` makes it, and the type of a choice depends on its option.
Two laws are all that is used of the fields, that a choice is what was chosen
(`chosen_choose_self`), and that it leaves the other choices alone
(`chosen_choose_of_ne`); the cases are gone through there and nowhere else.

# The order of options

To take up an option is to read its value and to choose that
(`takeUp_eq`), unless another choice excludes it: only a text and octets to
encrypt get in each other's way. So after different options were taken up,
every choice holds what its option says, and the choices whose options were
left out are as before (`foldlM_takeUp`). The induction is on the options, from
the first; none that comes later is for the same choice, which is why the
options have to be different ones. Both halves of that result speak of the
options as a set, so they are the same for every order (`follows_of_perm`).

That options are taken up at all is a separate matter, for a value may be
unreadable. `exists_foldlM_takeUp` has it for options with readable values
that do not give a text.
-/
import Pkcs12.Proofs.Cli.Arguments
import Pkcs12.Proofs.Outcome

namespace Pkcs12.Cli

open Pkcs12.Outcome (ok_bind bind_eq_ok_iff)

-- ============================================================== choices

/-- The type of what an option chooses. That for help chooses nothing: it ends the
reading of the command line. -/
def Opt.Value : Opt → Type
  | .help => Empty
  | .json | .saveReport => Unit
  | .family => Given Scheme
  | .password | .inText => Given Text
  | .salt => Given Bytes
  | .iterations | .vectors | .seed => Given Int
  | .inHex | .algorithmHex => Bytes
  | .report => Text

/-- What an option chooses on its own. Without its value, an option that takes one
is wrong. -/
def Opt.readFlag : (o : Opt) → Except Usage o.Value
  | .json | .saveReport => .ok ()
  | .help => .error .help
  | .family | .password | .inText | .salt | .iterations | .vectors | .seed | .inHex
  | .algorithmHex | .report => .error .wrong

/-- What an option chooses with a value. Octets that are missing count as none
where the command has no other use for a missing value. -/
def Opt.readValue : (o : Opt) → Text → Except Usage o.Value
  | .help, _ | .json, _ | .saveReport, _ => .error .wrong
  | .family, t => readScheme t
  | .password, t | .inText, t => readText t
  | .salt, t => readOctets t
  | .iterations, t | .vectors, t | .seed, t => readInt t
  | .inHex, t | .algorithmHex, t => do return (← readOctets t).getD []
  | .report, t => do return (← readText t).getD []

namespace Choices

/-- What is chosen for an option, if anything. -/
def chosen (c : Choices) : (o : Opt) → Option o.Value
  | .help => none
  | .json => if c.json then some () else none
  | .saveReport => if c.saveReport then some () else none
  | .family => c.family
  | .password => c.password
  | .inText => c.inText
  | .salt => c.salt
  | .iterations => c.iterations
  | .vectors => c.vectors
  | .seed => c.seed
  | .inHex => c.inHex
  | .algorithmHex => c.algorithmHex
  | .report => c.report

/-- The choices with one more made. -/
def choose (c : Choices) : (o : Opt) → o.Value → Choices
  | .json, _ => { c with json := true }
  | .saveReport, _ => { c with saveReport := true }
  | .family, x => { c with family := some x }
  | .password, x => { c with password := some x }
  | .inText, x => { c with inText := some x }
  | .salt, x => { c with salt := some x }
  | .iterations, x => { c with iterations := some x }
  | .vectors, x => { c with vectors := some x }
  | .seed, x => { c with seed := some x }
  | .inHex, x => { c with inHex := some x }
  | .algorithmHex, x => { c with algorithmHex := some x }
  | .report, x => { c with report := some x }

/-- Whether an option may not be given any more: a text and octets to encrypt
exclude each other. -/
def excludes (c : Choices) : Opt → Bool
  | .inText => c.inHex.isSome
  | .inHex => c.inText.isSome
  | _ => false

variable (c : Choices)

private theorem chosen_choose_self (o : Opt) (x : o.Value) : (c.choose o x).chosen o = some x := by
  cases o <;> first | rfl | exact nomatch x

/-- A choice leaves the choices of other options alone. -/
theorem chosen_choose_of_ne {o o' : Opt} (h : o' ≠ o) (x : o.Value) :
    (c.choose o x).chosen o' = c.chosen o' := by
  cases o <;> cases o' <;> first | rfl | exact absurd rfl h | exact nomatch x

private theorem superfluous_choose (o : Opt) (x : o.Value) :
    (c.choose o x).superfluous = c.superfluous := by
  cases o <;> first | rfl | exact nomatch x

/-- Without a text to encrypt, other options are not excluded. -/
theorem excludes_eq_false {c : Choices} {o : Opt} (ho : o ≠ .inText) (h : c.inText = none) :
    c.excludes o = false := by
  cases o with
  | inText => exact absurd rfl ho
  -- octets are only excluded by a text
  | inHex => rw [excludes, h, Option.isSome_none]
  | _ => rfl

theorem json_eq : c.json = (c.chosen .json).isSome := by
  rw [chosen]
  cases c.json <;> rfl

end Choices

namespace Argument

-- ============================================================ one option

/-- What the argument chooses, as its option reads it. -/
def read (a : Argument) : Except Usage a.opt.Value :=
  match a.attached with
  | none => a.opt.readFlag
  | some t => a.opt.readValue t

/-- To take up an option is to read its value and to choose that. -/
private theorem takeUp_eq (c : Choices) (a : Argument) :
    takeUp c a = (do
      let x ← a.read
      if c.excludes a.opt then throw .wrong else return c.choose a.opt x) := by
  obtain ⟨opt, attached, fits⟩ := a
  cases attached with
  | none => cases opt <;> rfl
  | some t =>
      simp only [takeUp, read]
      cases opt with
      | inHex | algorithmHex | report =>
          -- these read octets or a text and put something in place of a missing one
          simp only [Choices.setValue, Opt.readValue, bind_assoc]
          rfl
      | _ => rfl

variable {c c' : Choices} {a : Argument}

/-- An option that was taken up has chosen its value, and nothing else. -/
theorem takeUp_eq_ok (h : takeUp c a = .ok c') :
    ∃ x, a.read = .ok x ∧ c' = c.choose a.opt x := by
  rw [takeUp_eq] at h
  obtain ⟨x, hread, h⟩ := bind_eq_ok_iff.1 h
  split at h
  · cases h
  · cases h
    exact ⟨x, hread, rfl⟩

end Argument

-- ========================================================== many options

/-- The choices follow the arguments: each argument can be read, and what it says
is what is chosen for its option. -/
def Choices.Follows (c : Choices) (args : List Argument) : Prop :=
  ∀ a ∈ args, ∃ x, a.read = .ok x ∧ c.chosen a.opt = some x

/-- An argument that is followed has chosen what it reads. -/
theorem Choices.Follows.chosen_eq {c : Choices} {args : List Argument} (h : c.Follows args)
    {a : Argument} (ha : a ∈ args) {x : a.opt.Value} (hread : a.read = .ok x) :
    c.chosen a.opt = some x := by
  obtain ⟨y, hy, hchosen⟩ := h a ha
  cases hread.symm.trans hy
  exact hchosen

namespace Argument

variable {c c' : Choices} {args : List Argument}

/-- After different options were taken up, each has chosen its value, and
the other choices are as before. -/
theorem foldlM_takeUp (hdistinct : (args.map opt).Nodup) (h : args.foldlM takeUp c = .ok c') :
    c'.Follows args ∧ (∀ o ∉ args.map opt, c'.chosen o = c.chosen o)
      ∧ c'.superfluous = c.superfluous := by
  induction args generalizing c with
  | nil =>
      cases h
      exact ⟨fun a ha => (nomatch ha), fun _ _ => rfl, rfl⟩
  | cons first args ih =>
      rw [List.map_cons, List.nodup_cons] at hdistinct
      obtain ⟨hnew, hdistinct⟩ := hdistinct
      rw [List.foldlM_cons] at h
      obtain ⟨between, hfirst, h⟩ := bind_eq_ok_iff.1 h
      obtain ⟨x, hread, rfl⟩ := takeUp_eq_ok hfirst
      obtain ⟨hfollows, hopen, hsuperfluous⟩ := ih hdistinct h
      refine ⟨?_, ?_, hsuperfluous.trans (c.superfluous_choose first.opt x)⟩
      · intro a ha
        rcases List.mem_cons.1 ha with rfl | ha
        -- no later argument is for this option
        · exact ⟨x, hread, (hopen _ hnew).trans (c.chosen_choose_self _ x)⟩
        · exact hfollows a ha
      · intro o ho
        rw [List.map_cons, List.mem_cons, not_or] at ho
        exact (hopen o ho.2).trans (c.chosen_choose_of_ne ho.1 x)

/-- So the order in which different options come does not matter. -/
theorem follows_of_perm {given : List Argument} (hgiven : given.Perm args)
    (hdistinct : (args.map opt).Nodup) (h : given.foldlM takeUp {} = .ok c) :
    c.Follows args ∧ (∀ o ∉ args.map opt, c.chosen o = none) ∧ c.superfluous = false := by
  have hopts := hgiven.map opt
  obtain ⟨hfollows, hopen, hsuperfluous⟩ := foldlM_takeUp (hopts.nodup_iff.2 hdistinct) h
  refine ⟨fun a ha => hfollows a (hgiven.mem_iff.2 ha), fun o ho => ?_, hsuperfluous⟩
  rw [hopen o fun hmem => ho (hopts.mem_iff.1 hmem)]
  cases o <;> rfl

/-- Options with readable values are taken up, if none of them gives a text
to encrypt. -/
theorem exists_foldlM_takeUp (hopen : c.inText = none)
    (h : ∀ a ∈ args, a.opt ≠ .inText ∧ ∃ x, a.read = .ok x) :
    ∃ c', args.foldlM takeUp c = .ok c' := by
  induction args generalizing c with
  | nil => exact ⟨c, rfl⟩
  | cons first args ih =>
      obtain ⟨hother, x, hread⟩ := h first List.mem_cons_self
      have hfree := Choices.excludes_eq_false hother hopen
      have hstill : (c.choose first.opt x).inText = none :=
        (c.chosen_choose_of_ne (Ne.symm hother) x).trans hopen
      rw [List.foldlM_cons, takeUp_eq, hread, ok_bind, hfree, if_neg Bool.false_ne_true]
      exact ih hstill fun a ha => h a (List.mem_cons_of_mem _ ha)

end Argument

end Pkcs12.Cli
