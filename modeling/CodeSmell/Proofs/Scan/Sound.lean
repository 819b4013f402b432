import CodeSmell.Proofs.Brackets.Account
import CodeSmell.Proofs.Scan.State

/-!
# What holds of the state of every scan

* `Bracket.mem_stack_readLine` : a line adds to the open brackets only opening brackets of its own, each
  with its column;
* `ScanState.Sound` : what the parts of a state have to do with each other, and with the lines that a
  scan can have read;
* `Sound.trackIndent`, `Sound.recordImports`, `Sound.recordAssignment`, `Sound.readBrackets`,
  `Sound.after` : what a scan does to its state keeps it so, in whatever order it does it;
* `Sound.readLine`, `sound_scanLines` : the state after the lines of a text is sound.
-/

namespace CodeSmell

/-! ## Open brackets -/

namespace Bracket

theorem mem_stack_read {n : Int} {m : Matching} {c : Char} {column : Nat} {b : OpenBracket}
    (h : b ∈ (read n m c column).stack) :
    b ∈ m.stack ∨ isOpener c = true ∧ b = ⟨c, n, column⟩ := by
  unfold read at h
  split_ifs at h with hop
  · rcases List.mem_cons.mp h with rfl | h
    · exact Or.inr ⟨hop, rfl⟩
    · exact Or.inl h
  · left
    cases ho : opener? c with
    | none =>
      simp only [ho] at h
      exact h
    | some o =>
      simp only [ho] at h
      split at h
      · exact h
      · rename_i top below hstack
        rw [hstack]
        split_ifs at h
        · exact List.mem_cons_of_mem _ h
        · rwa [hstack] at h

/-- What is open after a line was open before, or is an opening bracket of the line. -/
theorem mem_stack_readLine {n : Int} {stack : List OpenBracket} {line : Text} {b : OpenBracket}
    (h : b ∈ (readLine n stack line).stack) :
    b ∈ stack ∨ isOpener b.bracket = true ∧ b.line = n ∧
      ∃ j, (line : Text)[j]? = some b.bracket ∧ b.column = j + 1 := by
  have key : ∀ (l : List (Char × Nat)) (m : Matching),
      b ∈ (l.foldl (fun m p => read n m p.1 p.2) m).stack →
      b ∈ m.stack ∨ isOpener b.bracket = true ∧ b.line = n ∧ (b.bracket, b.column) ∈ l := by
    intro l
    induction l with
    | nil => exact fun m hb => Or.inl hb
    | cons p l ih =>
      intro m hb
      rcases ih _ hb with hb | ⟨hop, hline, hmem⟩
      · rcases mem_stack_read hb with hb | ⟨hop, rfl⟩
        · exact Or.inl hb
        · exact Or.inr ⟨hop, rfl, List.mem_cons_self⟩
      · exact Or.inr ⟨hop, hline, List.mem_cons_of_mem _ hmem⟩
  rcases key _ _ h with h | ⟨hop, hline, hmem⟩
  · exact Or.inl h
  · obtain ⟨hle, hget⟩ := List.mk_mem_zipIdx_iff_le_and_getElem?_sub.mp hmem
    exact Or.inr ⟨hop, hline, b.column - 1, hget, by omega⟩

end Bracket

/-! ## Indentation widths -/

theorem mem_insertLevel {n w : Nat} {levels : List Nat} :
    w ∈ insertLevel n levels ↔ w = n ∨ w ∈ levels := by
  induction levels with
  | nil => simp [insertLevel]
  | cons m levels ih =>
    unfold insertLevel
    split_ifs with hlt heq
    · rw [List.mem_cons]
    · subst heq
      simp
    · rw [List.mem_cons, ih, List.mem_cons]
      tauto

theorem pairwise_insertLevel {n : Nat} {levels : List Nat} (h : levels.Pairwise (· < ·)) :
    (insertLevel n levels).Pairwise (· < ·) := by
  induction levels with
  | nil => exact List.pairwise_singleton _ _
  | cons m levels ih =>
    obtain ⟨hm, hlevels⟩ := List.pairwise_cons.mp h
    unfold insertLevel
    split_ifs with hlt heq
    · refine List.pairwise_cons.mpr ⟨fun w hw => ?_, h⟩
      rcases List.mem_cons.mp hw with rfl | hw
      · exact hlt
      · exact Nat.lt_trans hlt (hm w hw)
    · exact h
    · refine List.pairwise_cons.mpr ⟨fun w hw => ?_, ih hlevels⟩
      rcases mem_insertLevel.mp hw with rfl | hw
      · omega
      · exact hm w hw

/-- An indentation that holds anything has a width. -/
theorem Line.indentWidth_pos {line : Text} {c : Char} (h : (indent line).contains c = true) :
    0 < indentWidth line := by
  have hlength := List.length_pos_of_mem (List.contains_iff_mem.mp h)
  unfold indentWidth
  omega

/-! ## Sound states -/

/-- What is open are opening brackets, widths are above zero, and where an indentation had a tab or a space
there is a width. Import statements stand on some line, names are those of the statements, and statements
and names are kept once each. -/
structure ScanState.Sound (s : ScanState) : Prop where
  openers : ∀ b ∈ s.openBrackets, Bracket.isOpener b.bracket = true ∧ 0 < b.column
  levels : ∀ w ∈ s.indentLevels, 0 < w
  increasing : s.indentLevels.Pairwise (· < ·)
  indented : (s.hasTabs || s.hasSpaces) = true → s.indentLevels ≠ []
  statements : ∀ l ∈ s.importLines, l.lineNumbers ≠ [] ∧ (Line.importedNames? l.statement).isSome = true
  statementsOnce : (s.importLines.map (·.statement)).Nodup
  names : ∀ name ∈ s.importedNames, name ≠ [] ∧ ∃ l ∈ s.importLines, name ∈ Line.imported l.statement
  namesOnce : s.importedNames.Nodup
  targets : ∀ a ∈ s.assigned, Line.IsVariableName a.1
  targetsOnce : (s.assigned.map (·.1)).Nodup

namespace ScanState

theorem sound_empty : Sound {} := by
  constructor <;> simp

/-- A key that none of the entries has may be added to the keys. -/
theorem nodup_concat_of_not_any {α : Type} {key : α → Text} {entries : List α} {x : Text}
    (h : (entries.map key).Nodup) (hany : ¬entries.any (key · = x) = true) :
    (entries.map key ++ [x]).Nodup := by
  refine List.nodup_append.mpr ⟨h, List.nodup_singleton _, ?_⟩
  rintro y hy z hz rfl
  rw [List.mem_singleton.mp hz] at hy
  obtain ⟨entry, hentry, hsame⟩ := List.mem_map.mp hy
  exact hany (List.any_eq_true.mpr ⟨entry, hentry, decide_eq_true hsame⟩)

/-! ### Import statements -/

theorem map_statement_addImportLine (log : List ImportLine) (statement : Text) (n : Int) :
    (addImportLine log statement n).map (·.statement) =
      if log.any (·.statement = statement) then log.map (·.statement)
      else log.map (·.statement) ++ [statement] := by
  unfold addImportLine
  split_ifs
  · rw [List.map_map]
    refine List.map_congr_left fun l _ => ?_
    rw [Function.comp_apply]
    split_ifs <;> rfl
  · simp

/-- The statements of the log, and the new one. -/
theorem exists_statement_addImportLine {log : List ImportLine} {statement x : Text} {n : Int} :
    (∃ l ∈ addImportLine log statement n, l.statement = x) ↔
      (∃ l ∈ log, l.statement = x) ∨ x = statement := by
  have hmem : ∀ ls : List ImportLine, (∃ l ∈ ls, l.statement = x) ↔ x ∈ ls.map (·.statement) :=
    fun ls => List.mem_map.symm
  rw [hmem, hmem, map_statement_addImportLine]
  split_ifs with hany
  · refine (or_iff_left_of_imp ?_).symm
    rintro rfl
    simpa using hany
  · rw [List.mem_append, List.mem_singleton]

/-- Every entry has a number of a line. -/
theorem lineNumbers_addImportLine {log : List ImportLine} (h : ∀ l ∈ log, l.lineNumbers ≠ [])
    (statement : Text) (n : Int) : ∀ l ∈ addImportLine log statement n, l.lineNumbers ≠ [] := by
  intro l hl
  unfold addImportLine at hl
  split_ifs at hl
  · obtain ⟨l', hl', rfl⟩ := List.mem_map.mp hl
    split_ifs
    · simp [ImportLine.lineNumbers]
    · exact h l' hl'
  · rcases List.mem_append.mp hl with hl | hl
    · exact h l hl
    · rw [List.mem_singleton.mp hl]
      simp [ImportLine.lineNumbers]

namespace Sound
variable {s : ScanState} (h : s.Sound)
include h

/-! ### Steps -/

theorem trackIndent (line : Text) : (s.trackIndent line).Sound := by
  have hlevels : ∀ w ∈ (s.trackIndent line).indentLevels, 0 < w := by
    intro w hw
    simp only [ScanState.trackIndent] at hw
    split_ifs at hw with hzero
    · exact h.levels w hw
    · rcases mem_insertLevel.mp hw with rfl | hw
      · omega
      · exact h.levels w hw
  have hincreasing : (s.trackIndent line).indentLevels.Pairwise (· < ·) := by
    simp only [ScanState.trackIndent]
    split_ifs
    · exact h.increasing
    · exact pairwise_insertLevel h.increasing
  have hindented : ((s.trackIndent line).hasTabs || (s.trackIndent line).hasSpaces) = true →
      (s.trackIndent line).indentLevels ≠ [] := by
    intro hblank
    simp only [ScanState.trackIndent, Bool.or_eq_true] at hblank ⊢
    split_ifs with hzero
    · -- without a width the indentation held nothing, so something was noted before
      have hnone : ∀ c, ¬ (Line.indent line).contains c = true := fun c hc => by
        have := Line.indentWidth_pos hc
        omega
      rcases hblank with (htab | htab) | (hspace | hspace)
      · exact h.indented (by simp [htab])
      · exact absurd htab (hnone _)
      · exact h.indented (by simp [hspace])
      · exact absurd hspace (hnone _)
    · exact List.ne_nil_of_mem (mem_insertLevel.mpr (Or.inl rfl))
  exact { h with levels := hlevels, increasing := hincreasing, indented := hindented }

theorem recordImports (n : Int) (line : Text) : (s.recordImports n line).Sound := by
  unfold ScanState.recordImports
  cases himports : Line.importedNames? line with
  | none => exact h
  | some names =>
    refine { h with statements := ?_, statementsOnce := ?_, names := ?_, namesOnce := ?_ }
    · intro l hl
      refine ⟨lineNumbers_addImportLine (fun l hl => (h.statements l hl).1) line n l hl, ?_⟩
      rcases exists_statement_addImportLine.mp ⟨l, hl, rfl⟩ with ⟨l', hl', hsame⟩ | hsame
      · rw [← hsame]
        exact (h.statements l' hl').2
      · rw [hsame, himports]
        rfl
    · simp only [map_statement_addImportLine]
      split_ifs with hany
      · exact h.statementsOnce
      · exact nodup_concat_of_not_any h.statementsOnce hany
    · intro name hname
      rcases mem_foldl_addName.mp hname with hname | ⟨hne, hname⟩
      · obtain ⟨hne, l, hl, himported⟩ := h.names name hname
        obtain ⟨l', hl', hsame⟩ := exists_statement_addImportLine.mpr (Or.inl ⟨l, hl, rfl⟩)
        exact ⟨hne, l', hl', hsame ▸ himported⟩
      · obtain ⟨l', hl', hsame⟩ := exists_statement_addImportLine.mpr (Or.inr rfl)
        refine ⟨hne, l', hl', ?_⟩
        rw [hsame, Line.imported, himports]
        exact hname
    · exact nodup_foldl_addName h.namesOnce

theorem recordAssignment (n : Int) (line : Text) : (s.recordAssignment n line).Sound := by
  unfold ScanState.recordAssignment
  cases hassigned : Line.assignedName? line with
  | none => exact h
  | some name =>
    dsimp only
    split_ifs with hany
    · exact h
    · refine { h with targets := ?_, targetsOnce := ?_ }
      · intro a ha
        rcases List.mem_append.mp ha with ha | ha
        · exact h.targets a ha
        · rw [List.mem_singleton.mp ha]
          exact (Line.assignedName?_eq_some_iff.mp hassigned).1
      · rw [List.map_append, List.map_singleton]
        exact nodup_concat_of_not_any h.targetsOnce hany

theorem readBrackets (n : Int) (line : Text) :
    ({ s with openBrackets := (Bracket.readLine n s.openBrackets line).stack } : ScanState).Sound := by
  refine { h with openers := fun b hb => ?_ }
  rcases Bracket.mem_stack_readLine hb with hb | ⟨hop, -, j, -, hcolumn⟩
  · exact h.openers b hb
  · exact ⟨hop, by omega⟩

theorem after (c : Check) : (c.after s).Sound := by
  cases c
  case unclosedBrackets => exact { h with openers := fun b hb => by cases hb }
  all_goals exact h

theorem readLine (n : Int) (line : Text) : (s.readLine n line).1.Sound := by
  have hstate := ((h.trackIndent line).recordImports n line).recordAssignment n line
  exact { hstate with openers := (h.readBrackets n line).openers }

end Sound

end ScanState

theorem sound_scanLines (lines : List Text) : (scanLines lines).state.Sound := by
  induction lines using List.reverseRecOn with
  | nil => exact ScanState.sound_empty
  | append_singleton lines line ih =>
    rw [state_scanLines_concat]
    exact ih.readLine _ line

end CodeSmell
