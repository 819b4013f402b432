import CodeSmell.Command.Run
import Mathlib.Tactic.Common

/-!
# Reading command lines

* `bind_eq_ok_iff`, `map_eq_ok_iff`, `mapError_eq_ok_iff` : where a result comes from;
* `Arguments.foldlM_readOne_of_ended` : after the last option every argument is kept as it is;
* `Arguments.foldlM_readOne_option`, `foldlM_readOne_dashes` : an option with the value after it, and two
  dashes with the arguments after them;
* `Request.read_command` : what follows the name of a command is read by the command.
-/

namespace CodeSmell

/-! ## Steps that may fail -/

section
variable {ε ε' α β : Type} {x : Except ε α}

theorem bind_eq_ok_iff {f : α → Except ε β} {b : β} :
    x >>= f = .ok b ↔ ∃ a, x = .ok a ∧ f a = .ok b := by
  cases x <;> simp [bind, Except.bind]

theorem map_eq_ok_iff {f : α → β} {b : β} : x.map f = .ok b ↔ ∃ a, x = .ok a ∧ f a = b := by
  cases x <;> simp [Except.map]

theorem mapError_eq_ok_iff {f : ε → ε'} {a : α} : x.mapError f = .ok a ↔ x = .ok a := by
  cases x <;> simp [Except.mapError]

end

/-! ## Arguments -/

namespace Arguments
variable {specs : List OptionSpec} {a : Arguments}

/-- After the last option every argument is kept as it is. -/
theorem foldlM_readOne_of_ended (mixed : Bool) (hwaiting : a.waiting = none) (hended : a.ended = true)
    (args : List Text) :
    args.foldlM (readOne specs mixed) a = .ok { a with positional := a.positional ++ args } := by
  induction args generalizing a with
  | nil => rw [List.append_nil]; rfl
  | cons arg args ih =>
    have hone : readOne specs mixed a arg = .ok (a.addPositional arg) := by
      rw [readOne, hwaiting, hended]
      rfl
    rw [List.foldlM_cons, hone]
    exact (ih (a := a.addPositional arg) hwaiting hended).trans (by simp [addPositional])

/-- An option of a command that takes a value waits for it. -/
theorem readOne_long {c : Command} {spec : OptionSpec} (hspec : spec ∈ optionSpecs (some c))
    (hvalue : spec.takesValue = true) (mixed : Bool) (hwaiting : a.waiting = none)
    (hended : a.ended = false) :
    readOne (optionSpecs (some c)) mixed a spec.long =
      .ok { a with waiting := some (spec.key, spec.long) } := by
  obtain ⟨options, positional, waiting, ended⟩ := a
  cases hwaiting
  cases hended
  cases c <;> simp only [optionSpecs, List.mem_cons, List.not_mem_nil, or_false] at hspec
  case check =>
    rcases hspec with rfl | rfl | rfl | rfl
    · rfl
    · rfl
    · rfl
    · cases hvalue
  case report =>
    rcases hspec with rfl | rfl
    · rfl
    · cases hvalue
  case server =>
    rcases hspec with rfl | rfl
    · rfl
    · cases hvalue

/-- An option that takes a value, and the argument after it. -/
theorem foldlM_readOne_option {c : Command} {key : OptionKey} {long : Text}
    (h : ∃ spec ∈ optionSpecs (some c), spec.takesValue = true ∧ spec.key = key ∧ spec.long = long)
    (mixed : Bool) (hwaiting : a.waiting = none) (hended : a.ended = false) (value : Text)
    (args : List Text) :
    (long :: value :: args).foldlM (readOne (optionSpecs (some c)) mixed) a =
      args.foldlM (readOne (optionSpecs (some c)) mixed) (a.addOption key value) := by
  obtain ⟨spec, hspec, hvalue, rfl, rfl⟩ := h
  rw [List.foldlM_cons, readOne_long hspec hvalue mixed hwaiting hended]
  rfl

/-- Two dashes, and the arguments after them. -/
theorem foldlM_readOne_dashes (mixed : Bool) (hwaiting : a.waiting = none) (hended : a.ended = false)
    (args : List Text) :
    ("--".toList :: args).foldlM (readOne specs mixed) a =
      .ok { a with positional := a.positional ++ args, ended := true } := by
  have hone : readOne specs mixed a "--".toList = .ok { a with ended := true } := by
    rw [readOne, hwaiting, hended]
    simp
  rw [List.foldlM_cons, hone]
  exact foldlM_readOne_of_ended (a := { a with ended := true }) mixed hwaiting rfl args

end Arguments

/-! ## Commands -/

/-- The words of a command line up to the name of its command. -/
def commandWords (verbose : Bool) (c : Command) : List Text :=
  if verbose then ["--verbose".toList, c.name] else [c.name]

/-- What follows the name of a command is read by the command. -/
theorem Request.read_command (files : FileTree) (verbose : Bool) (c : Command) (rest : List Text) :
    Request.read files (commandWords verbose c ++ rest) =
      (ofCommand files verbose c rest).mapError (⟨some c, ·⟩) := by
  have hread : Arguments.read (optionSpecs none) false (commandWords verbose c ++ rest) =
      .ok { options := if verbose then [{ key := .verbose }] else []
            positional := c.name :: rest, ended := true } := by
    have hwords : (commandWords verbose c).foldlM (Arguments.readOne (optionSpecs none) false) {} =
        .ok { options := if verbose then [{ key := .verbose }] else []
              positional := [c.name], ended := true } := by
      cases verbose <;> cases c <;> rfl
    rw [Arguments.read, List.foldlM_append, hwords]
    show (do
      let a ← rest.foldlM (Arguments.readOne (optionSpecs none) false) _
      _) = _
    rw [Arguments.foldlM_readOne_of_ended _ rfl rfl]
    rfl
  rw [Request.read, hread]
  cases verbose <;> cases c <;> rfl

end CodeSmell
