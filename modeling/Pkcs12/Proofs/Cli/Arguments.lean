/-
Arguments that are options written out in full, each on its own or with its
value attached.

# Why these arguments

Between a word of the command line and the option it stands for lies a good
deal of guessing: names may be cut short, values may be arguments of their own,
numbers look like options. None of that touches an argument that is a full
name, or a full name with an equals sign and a value: it is sorted as the
option it names whatever stands before and behind it (`token?_text`). So a
command line of such arguments is sorted argument by argument
(`tokens?_texts`), and no argument is separated from its value.

# From arguments to choices

An `Argument` has a value exactly if its option takes one, which is a field of
it, so no option lacks its value and none has one too many. `takeUp` is what
the two cases of an option have in common, and a command with nothing but
options of its own is a fold of it over the arguments
(`readArguments_texts`). Everything about the order of options is then a fact
about that fold.
-/
import Pkcs12.Cli.Command

namespace Pkcs12.Cli

-- =============================================================== names

namespace Opt

/-- Options are told apart by their names, although some names are beginnings of
others. -/
private theorem name_inj {o o' : Opt} : o.name = o'.name ↔ o = o' := by
  constructor
  · cases o <;> cases o' <;> decide
  · exact congrArg name

/-- A name begins with two hyphens and does not end there. -/
private theorem exists_name (o : Opt) :
    ∃ c rest, o.name = CodePoint.ofChar '-' :: CodePoint.ofChar '-' :: c :: rest := by
  cases o <;> exact ⟨_, _, rfl⟩

private theorem not_isChar_of_mem_name {o : Opt} : ∀ d ∈ o.name, d.isChar '=' = false := by
  have hall : o.name.all (fun d => !d.isChar '=') = true := by
    cases o <;> rfl
  intro d hd
  exact Bool.not_eq_true' _ ▸ List.all_eq_true.1 hall d hd

private theorem find?_name {o : Opt} {options : List Opt} (h : o ∈ options) :
    options.find? (fun o' => o'.name = o.name) = some o := by
  induction options with
  | nil => cases h
  | cons first options ih =>
      by_cases hfirst : first = o
      · rw [hfirst, List.find?_cons_of_pos (by simp)]
      · rw [List.find?_cons_of_neg (by simpa [name_inj] using hfirst)]
        exact ih ((List.mem_cons.1 h).resolve_left (Ne.symm hfirst))

end Opt

/-- A text without an equals sign is cut at the one behind it, if one is
there. -/
private theorem splitEquals_append {t : Text} (h : ∀ d ∈ t, d.isChar '=' = false) :
    splitEquals t = (t, none)
      ∧ ∀ value, splitEquals (t ++ CodePoint.ofChar '=' :: value) = (t, some value) := by
  induction t with
  | nil => exact ⟨rfl, fun _ => rfl⟩
  | cons d t ih =>
      obtain ⟨halone, hbefore⟩ := ih fun d hd => h d (List.mem_cons_of_mem _ hd)
      have hd := h d List.mem_cons_self
      -- alone, and with an equals sign behind it, the text is walked through alike
      constructor
      · rw [splitEquals, if_neg (by rw [hd]; exact Bool.false_ne_true), halone]
      · intro value
        rw [List.cons_append, splitEquals, if_neg (by rw [hd]; exact Bool.false_ne_true),
          hbefore value]

-- ============================================================= options

/-- An option, with the value attached to it. It has one exactly if the option
takes a value. -/
structure Argument where
  opt : Opt
  attached : Option Text
  fits : opt.takesValue = attached.isSome

namespace Argument

/-- The option as it stands on the command line. -/
def text (a : Argument) : Text :=
  match a.attached with
  | none => a.opt.name
  | some value => a.opt.name ++ CodePoint.ofChar '=' :: value

/-- The option as it is sorted. -/
def token (a : Argument) : Token :=
  .option a.opt a.attached

private theorem splitEquals_text (a : Argument) :
    splitEquals a.text = (a.opt.name, a.attached) := by
  obtain ⟨halone, hbefore⟩ := splitEquals_append (Opt.not_isChar_of_mem_name (o := a.opt))
  rw [text]
  cases a.attached with
  | none => exact halone
  | some value => exact hbefore value

/-- An argument begins with two hyphens and does not end there, so it is neither
the separator nor a cluster of short options. -/
private theorem exists_text (a : Argument) :
    ∃ c rest, a.text = CodePoint.ofChar '-' :: CodePoint.ofChar '-' :: c :: rest := by
  obtain ⟨c, rest, hname⟩ := a.opt.exists_name
  rw [text, hname]
  cases a.attached with
  | none => exact ⟨c, rest, rfl⟩
  | some value => exact ⟨c, _, rfl⟩

variable {options : List Opt}

/-- An option that a command knows is sorted as this option, with the value that is
attached to it. -/
private theorem token?_text {a : Argument} (h : a.opt ∈ options) :
    token? options a.text = some a.token := by
  have hsplit := a.splitEquals_text
  obtain ⟨c, rest, htext⟩ := a.exists_text
  rw [htext] at hsplit ⊢
  rw [token?]
  · rw [if_pos (by decide), optionToken?, hsplit]
    simp only
    rw [Opt.find?_name h]
    rfl
  · intro hshort
    cases hshort

/-- Arguments that are options of a command are sorted as these options. -/
theorem tokens?_texts {args : List Argument} (h : ∀ a ∈ args, a.opt ∈ options) :
    tokens? options (args.map text) = some (args.map token) := by
  induction args with
  | nil => rfl
  | cons a args ih =>
      obtain ⟨c, rest, htext⟩ := a.exists_text
      -- behind two hyphens alone nothing would be an option any more
      have hseparator : a.text ≠ Text.ofString "--" := by
        rw [htext]
        intro heq
        cases (List.cons.inj (List.cons.inj heq).2).2
      rw [List.map_cons, tokens?, if_neg hseparator, token?_text (h a List.mem_cons_self),
        ih fun a' ha' => h a' (List.mem_cons_of_mem _ ha')]
      rfl

-- ============================================================ taking up

def takeUp (c : Choices) (a : Argument) : Except Usage Choices :=
  match a.attached with
  | none => c.setFlag a.opt
  | some value => c.setValue a.opt value

/-- Options that each have their value, or need none, are taken up one by one. -/
private theorem collect_tokens (args : List Argument) (c : Choices) :
    c.collect (args.map token) = args.foldlM takeUp c := by
  induction args generalizing c with
  | nil => rfl
  | cons a args ih =>
      obtain ⟨opt, attached, fits⟩ := a
      rw [List.foldlM_cons, List.map_cons, token]
      cases attached with
      | none =>
          rw [Option.isSome_none] at fits
          simp only [Choices.collect, fits, ih]
          rfl
      | some value =>
          rw [Option.isSome_some] at fits
          simp only [Choices.collect, fits, ih]
          rfl

end Argument

-- ============================================================ commands

/-- A command is known by its word, which is no option. -/
theorem readArguments_word (settings : Settings) (verb : Verb) (rest : List Text) :
    readArguments settings (Text.ofString verb.word :: rest) = readVerb settings verb rest := by
  cases verb <;> rfl

/-- A command with nothing but options of its own is what these choose, taken up
from the first to the last. -/
theorem readArguments_texts (settings : Settings) (verb : Verb) {given : List Argument}
    (h : ∀ a ∈ given, a.opt ∈ verb.options) :
    readArguments settings (Text.ofString verb.word :: given.map Argument.text)
      = (do
          let choices ← given.foldlM Argument.takeUp {}
          let command ← choices.command settings verb
          if choices.superfluous then throw .wrong else return ⟨command, choices.json⟩) := by
  rw [readArguments_word, readVerb, Argument.tokens?_texts h]
  simp only
  rw [Argument.collect_tokens]

end Pkcs12.Cli
