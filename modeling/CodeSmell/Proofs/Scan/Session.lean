import CodeSmell.Proofs.Scan.Sound
import CodeSmell.Scan.Session

/-!
# Sessions

The operations of a scan may come in any order, with any lines and any line numbers, and some of them may
fail. What an operation leaves alone does not depend on what came before it.

* `SessionOp.Frame s s' op` : all that the operation `op` may change from the state `s` to the state `s'`;
* `Stopped t lines assigned found e` : the check of assigned names has stopped with the error `e` at one of
  them, and what it has found is about the names before that one;
* `Session.Keeps s op` : what the operation `op` keeps of the session `s`; `keeps_step`;
* `Session.run`, `session_keeps` : in a session that starts with an empty state, every operation keeps
  this, and the state is sound all the time.
-/

namespace CodeSmell

open Text

/-! ## Frames -/

/-- What an operation may change of the state. The names that were assigned before stay as they are. -/
def SessionOp.Frame (s s' : ScanState) : SessionOp → Prop
  | .applyRules _ _ | .applyRule _ _ _ | .push _ => s' = s
  | .trackIndent _ =>
    s' = { s with
      hasTabs := s'.hasTabs, hasSpaces := s'.hasSpaces, indentLevels := s'.indentLevels }
  | .recordImports _ _ =>
    s' = { s with importedNames := s'.importedNames, importLines := s'.importLines }
  | .recordAssignment _ _ => s' = { s with assigned := s'.assigned } ∧ s.assigned <+: s'.assigned
  | .readBrackets _ _ => s' = { s with openBrackets := s'.openBrackets }
  | .runCheck c => if c = .unclosedBrackets then s' = { s with openBrackets := [] } else s' = s

theorem frame_recordImports (s : ScanState) (n : Int) (line : Text) :
    s.recordImports n line = { s with
      importedNames := (s.recordImports n line).importedNames
      importLines := (s.recordImports n line).importLines } := by
  unfold ScanState.recordImports
  cases Line.importedNames? line <;> rfl

theorem frame_recordAssignment (s : ScanState) (n : Int) (line : Text) :
    s.recordAssignment n line = { s with assigned := (s.recordAssignment n line).assigned } ∧
      s.assigned <+: (s.recordAssignment n line).assigned := by
  unfold ScanState.recordAssignment
  cases Line.assignedName? line with
  | none => exact ⟨rfl, List.prefix_refl _⟩
  | some name =>
    dsimp only
    split_ifs
    · exact ⟨rfl, List.prefix_refl _⟩
    · exact ⟨rfl, List.prefix_append _ _⟩

theorem frame_after (s : ScanState) (c : Check) : (SessionOp.runCheck c).Frame s (c.after s) := by
  cases c <;> rfl

theorem frame_step (s : Session) (op : SessionOp) : op.Frame s.state (s.step op).state := by
  cases op with
  | applyRules n line => rfl
  | applyRule i n line =>
    simp only [SessionOp.Frame, Session.step, Session.outcome]
    split <;> rfl
  | trackIndent line => rfl
  | recordImports n line => exact frame_recordImports s.state n line
  | recordAssignment n line => exact frame_recordAssignment s.state n line
  | readBrackets n line => rfl
  | runCheck c => exact frame_after s.state c
  | push d =>
    simp only [SessionOp.Frame, Session.step, Session.outcome]
    split <;> rfl

/-! ## The check of assigned names -/

/-- The finding about an assigned name shows the line of its number. -/
def ShowsLine (lines : List Text) (a : Text × Int) (f : Finding) : Prop :=
  ∃ line, lineAt lines a.2 = .ok line ∧ f = (Smell.unusedVariable a.1).onLine a.2 line

/-- The check has stopped at an unused name whose number is that of no line, and has found the names
before it that are unused. -/
def Stopped (t : Text) (lines : List Text) (assigned : List (Text × Int)) (found : List Finding)
    (e : ScanError) : Prop :=
  ∃ earlier a later, assigned = earlier ++ a :: later ∧ isUnused t a.1 = true ∧
    lineAt lines a.2 = .error e ∧
    List.Forall₂ (ShowsLine lines) (earlier.filter (isUnused t ·.1)) found

/-- Names are taken one by one, and the first one without a line ends the check. -/
theorem unusedVariablesFrom_error {t : Text} {lines : List Text} {found : List Finding}
    {assigned : List (Text × Int)} {e : ScanError}
    (h : (unusedVariablesFrom t lines found assigned).2 = some e) :
    ∃ earlier a later new, assigned = earlier ++ a :: later ∧ isUnused t a.1 = true ∧
      lineAt lines a.2 = .error e ∧
      (unusedVariablesFrom t lines found assigned).1 = found.reverse ++ new ∧
      List.Forall₂ (ShowsLine lines) (earlier.filter (isUnused t ·.1)) new := by
  induction assigned generalizing found with
  | nil => cases h
  | cons a assigned ih =>
    obtain ⟨name, n⟩ := a
    rw [unusedVariablesFrom] at h ⊢
    split_ifs at h ⊢ with hunused
    · cases hline : lineAt lines n with
      | error e' =>
        rw [hline] at h
        cases h
        exact ⟨[], (name, n), assigned, [], rfl, hunused, hline, by simp, .nil⟩
      | ok line =>
        rw [hline] at h
        obtain ⟨earlier, a, later, new, rfl, ha, herror, hfound, hnew⟩ := ih h
        refine ⟨(name, n) :: earlier, a, later, (Smell.unusedVariable name).onLine n line :: new, rfl, ha,
          herror, ?_, ?_⟩
        · simpa using hfound
        · rw [List.filter_cons_of_pos (by simpa using hunused)]
          exact .cons ⟨line, hline, rfl⟩ hnew
    · obtain ⟨earlier, a, later, new, rfl, ha, herror, hfound, hnew⟩ := ih h
      refine ⟨(name, n) :: earlier, a, later, new, rfl, ha, herror, hfound, ?_⟩
      rwa [List.filter_cons_of_neg (by simpa using hunused)]

theorem stopped_of_error {t : Text} {lines : List Text} {assigned : List (Text × Int)} {e : ScanError}
    (h : (unusedVariables t lines assigned).2 = some e) :
    Stopped t lines assigned (unusedVariables t lines assigned).1 e := by
  obtain ⟨earlier, a, later, new, hassigned, ha, herror, hfound, hnew⟩ := unusedVariablesFrom_error h
  refine ⟨earlier, a, later, hassigned, ha, herror, ?_⟩
  rw [unusedVariables, hfound]
  exact hnew

/-! ## One operation -/

namespace Session

/-- What the operation `op` keeps of the session `s`: the text and its lines, all findings so far, and the parts
of the state that are not its own. A draft that makes no finding adds none, and a check of the assigned names
that stops keeps what it has found. -/
structure Keeps (s : Session) (op : SessionOp) : Prop where
  text : (s.step op).text = s.text
  lines : (s.step op).lines = s.lines
  findings : s.findings <+: (s.step op).findings
  frame : op.Frame s.state (s.step op).state
  draft : ∀ d e, op = .push d → (s.outcome op).error = some e → (s.step op).findings = s.findings
  names : ∀ e, op = .runCheck .unusedVariables → (s.outcome op).error = some e →
    ∃ found e', e = .scan e' ∧ (s.step op).findings = s.findings ++ found ∧
      Stopped s.text s.lines s.state.assigned found e'

theorem keeps_step (s : Session) (op : SessionOp) : s.Keeps op where
  text := rfl
  lines := rfl
  findings := List.prefix_append _ _
  frame := frame_step s op
  draft d e hop herror := by
    subst hop
    simp only [outcome, step] at herror ⊢
    split at herror
    · cases herror
    · simp
  names e hop herror := by
    subst hop
    obtain ⟨e', he', rfl⟩ := Option.map_eq_some_iff.mp herror
    exact ⟨(unusedVariables s.text s.lines s.state.assigned).1, e', rfl, rfl, stopped_of_error he'⟩

/-- What an operation does keeps the state sound. -/
theorem sound_step {s : Session} (h : s.state.Sound) (op : SessionOp) : (s.step op).state.Sound := by
  cases op with
  | applyRules n line => exact h
  | applyRule i n line =>
    simp only [step, outcome]
    split <;> exact h
  | trackIndent line => exact h.trackIndent line
  | recordImports n line => exact h.recordImports n line
  | recordAssignment n line => exact h.recordAssignment n line
  | readBrackets n line => exact h.readBrackets n line
  | runCheck c => exact h.after c
  | push d =>
    simp only [step, outcome]
    split <;> exact h

/-! ## Whole sessions -/

/-- The session about a text and its lines before anything has been done. -/
def start (t : Text) (lines : List Text := t.lines) : Session :=
  { text := t, lines }

def run (s : Session) (ops : List SessionOp) : Session :=
  ops.foldl step s

theorem run_append (s : Session) (ops more : List SessionOp) :
    s.run (ops ++ more) = (s.run ops).run more :=
  List.foldl_append

theorem findings_run (s : Session) (ops : List SessionOp) : s.findings <+: (s.run ops).findings := by
  induction ops generalizing s with
  | nil => exact List.prefix_refl _
  | cons op ops ih => exact (keeps_step s op).findings.trans (ih (s.step op))

theorem sound_run {s : Session} (h : s.state.Sound) (ops : List SessionOp) :
    (s.run ops).state.Sound := by
  induction ops generalizing s with
  | nil => exact h
  | cons op ops ih => exact ih (sound_step h op)

/-- **Operations in any order.** In a session that starts with an empty state, whatever its lines are, each
operation keeps the findings so far and changes its own part of the state only, also when it fails, and the state
is sound all the time. -/
theorem session_keeps (t : Text) (lines : List Text) (ops : List SessionOp) :
    (∀ op, ((start t lines).run ops).Keeps op) ∧ ((start t lines).run ops).state.Sound ∧
      ∀ more, ((start t lines).run ops).findings <+: ((start t lines).run (ops ++ more)).findings := by
  refine ⟨fun op => keeps_step _ op, sound_run ScanState.sound_empty ops, fun more => ?_⟩
  rw [run_append]
  exact findings_run _ more

/-- The second name has the number of no line, so the check stops there and keeps the finding about the
first; a draft with a field that findings do not have adds nothing to it. -/
theorem session_keeps_stopped :
    let s := (start "a = 1\nb = 2\n".toList).run
      [.recordAssignment 1 "a = 1".toList, .recordAssignment 9 "b = 2".toList]
    let checked := s.step (.runCheck .unusedVariables)
    let draft : Draft := { unknownFields := ["column".toList] }
    (∃ found, checked.findings = s.findings ++ found ∧
        Stopped s.text s.lines s.state.assigned found .indexOutOfRange) ∧
      checked.findings.map (·.line) = [some 1] ∧
      (checked.step (.push draft)).findings = checked.findings := by
  intro s checked draft
  have hcheck : (s.outcome (.runCheck .unusedVariables)).error = some (.scan .indexOutOfRange) := by rfl
  have hdraft : (checked.outcome (.push draft)).error = some (.draft (.unknownField "column".toList)) := by
    rfl
  refine ⟨?_, by rfl, ?_⟩
  · obtain ⟨found, e, he, hfound, hstopped⟩ := ((session_keeps _ _ _).1 _).names _ rfl hcheck
    cases he
    exact ⟨found, hfound, hstopped⟩
  · have hrun : checked = (start "a = 1\nb = 2\n".toList).run
        [.recordAssignment 1 "a = 1".toList, .recordAssignment 9 "b = 2".toList,
          .runCheck .unusedVariables] := rfl
    rw [hrun] at hdraft ⊢
    exact ((session_keeps _ _ _).1 _).draft _ _ rfl hdraft

end Session

end CodeSmell
