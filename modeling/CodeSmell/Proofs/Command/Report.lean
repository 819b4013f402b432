import CodeSmell.Proofs.Command.Arguments

/-!
# Command lines that ask for a report

* `Asks files path args` : the command line `args` asks for the report on `path`;
* `run_of_asks` : what it prints;
* `asks_report_dashes` : two dashes may stand before any path;
* `asks_report_iff` : without them the path must not start with a dash, or it is read as an option
  (`positional_readOption` : an option leaves the arguments as they are).
-/

namespace CodeSmell

/-- The command line asks for the report on the path, to be written to the standard output. -/
def Asks (files : FileTree) (path : Text) (args : List Text) : Prop :=
  ∃ verbose, Request.read files args = .ok (.report verbose { source := path })

theorem run_of_asks {files : FileTree} {path : Text} {args : List Text} (h : Asks files path args)
    {s : Surroundings} (hs : s.files = files) :
    (run s args).output = formatReport (analyze (readSource s path)) := by
  obtain ⟨verbose, h⟩ := h
  cases args with
  | nil => cases h
  | cons arg args =>
    rw [run, hs, h]
    rfl

/-! ## Reading arguments -/

namespace Arguments
variable {specs : List OptionSpec} {a b : Arguments}

theorem positional_readShort {t : Text} (h : readShort specs a t = .ok b) :
    b.positional = a.positional := by
  fun_induction readShort specs a t with
  | case1 => cases h; rfl
  | case2 => cases h
  | case3 a c rest s _ _ ih => exact ih h
  | case4 => cases h; rfl
  | case5 => cases h; rfl

/-- An option is none of the arguments. -/
theorem positional_readOption {arg : Text} (h : readOption specs a arg = .ok b) :
    b.positional = a.positional := by
  unfold readOption at h
  dsimp only at h
  split at h
  · split at h <;> cases h
    rfl
  · split at h <;> cases h <;> rfl
  · split at h
    · cases h
    · exact positional_readShort h

theorem readOne_of_read {arg : Text} (h : read specs true [arg] = .ok a) :
    readOne specs true {} arg = .ok a := by
  rw [read, List.foldlM_cons] at h
  cases hone : readOne specs true {} arg with
  | error e => rw [hone] at h; cases h
  | ok b =>
    rw [hone] at h
    cases hwaiting : b.waiting with
    | none => simpa [hwaiting, bind, pure, Except.bind, Except.pure] using h
    | some option => simp [hwaiting, bind, pure, Except.bind, Except.pure] at h

theorem readOne_dashed {arg : Text} (hdash : arg.head? = some '-') (harg : arg ≠ dash) :
    readOne specs true {} arg =
      if arg = ['-', '-'] then .ok { ended := true } else readOption specs {} arg := by
  have hlength : 1 < arg.length := by
    match arg, hdash, harg with
    | ['-'], _, harg => exact absurd rfl harg
    | _ :: _ :: _, _, _ => simp
  simp [readOne, hdash, hlength]

/-- An argument that starts with a dash is an option or ends the options. -/
theorem positional_read_dashed {arg : Text} (hdash : arg.head? = some '-') (harg : arg ≠ dash)
    (h : read specs true [arg] = .ok a) : a.positional = [] := by
  have hone := readOne_of_read h
  rw [readOne_dashed hdash harg] at hone
  split_ifs at hone
  · cases hone
    rfl
  · exact positional_readOption hone

end Arguments

/-! ## Reading requests -/

theorem Request.read_report (files : FileTree) (rest : List Text) :
    Request.read files ("report".toList :: rest) =
      (ofCommand files false .report rest).mapError (⟨some .report, ·⟩) :=
  Request.read_command files false .report rest

section
variable {files : FileTree} {path : Text} {content : Bytes} (hnull : hasNull path = false)
  (hread : files.read path = .ok content)
include hnull hread

theorem asks_of_read (ended : Bool) {rest : List Text}
    (h : Arguments.read (optionSpecs (some .report)) true rest = .ok { positional := [path], ended }) :
    Asks files path ("report".toList :: rest) := by
  have hoptions : ReportOptions.ofArguments files { positional := [path], ended } =
      .ok { source := path } := by
    rw [ReportOptions.ofArguments]
    simp only [hnull, hread, Bool.false_eq_true, if_false]
    split_ifs <;> rfl
  refine ⟨false, ?_⟩
  rw [Request.read_report, Request.ofCommand, h]
  show ((ReportOptions.ofArguments files { positional := [path], ended }).map
    (Request.report false)).mapError _ = _
  rw [hoptions]
  rfl

theorem asks_report_dashes : Asks files path ["report".toList, "--".toList, path] :=
  asks_of_read hnull hread true rfl

theorem asks_report (hdash : path.head? ≠ some '-') : Asks files path ["report".toList, path] := by
  apply asks_of_read hnull hread false
  have hdashes : path ≠ ['-', '-'] := by
    rintro rfl
    exact hdash rfl
  have hone : Arguments.readOne (optionSpecs (some .report)) true {} path =
      .ok { positional := [path] } := by
    simp [Arguments.readOne, hdashes, hdash, Arguments.addPositional]
  rw [Arguments.read, List.foldlM_cons, hone]
  rfl

omit hnull hread in
theorem not_asks_report (hdash : path.head? = some '-') (hpath : path ≠ dash) :
    ¬Asks files path ["report".toList, path] := by
  rintro ⟨verbose, h⟩
  rw [Request.read_report, Request.ofCommand] at h
  cases hargs : Arguments.read (optionSpecs (some .report)) true [path] with
  | error e => rw [hargs] at h; cases h
  | ok a =>
    have hoptions : ReportOptions.ofArguments files a = .error .missingSource := by
      rw [ReportOptions.ofArguments, Arguments.positional_read_dashed hdash hpath hargs]
    rw [hargs] at h
    cases hquestion : a.question? with
    | some key =>
      simp only [bind, Except.bind, hquestion] at h
      cases key <;> cases h
    | none =>
      simp only [bind, Except.bind, hquestion, hoptions] at h
      cases h

/-- Without two dashes before it, a path is the source exactly when it does not start with a dash. -/
theorem asks_report_iff (hpath : path ≠ dash) :
    Asks files path ["report".toList, path] ↔ path.head? ≠ some '-' :=
  ⟨fun h hdash => not_asks_report hdash hpath h, asks_report hnull hread⟩

end

end CodeSmell
