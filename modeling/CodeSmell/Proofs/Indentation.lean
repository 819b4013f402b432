import CodeSmell.Proofs.LineRules
import CodeSmell.Proofs.Scan.Assignments
import CodeSmell.Proofs.Scan.Session

/-!
# Indentation in steps of four

The rule for a line leaves every indentation with a tab alone, so what it says is about indentations without
tabs only. The scan notes whether any line has a tab, or a space, in its indentation. Where it has noted one of
the two at most, an indentation with a tab is made of tabs.

* `KnowsIndent lines s` : what the state `s` says about the indentations of the lines; `knowsIndent_scanLines`;
* `not_mixed_of_not_reported` : without a finding about mixed indentation, no two lines mix tabs and spaces;
* `four_dvd_indentWidth` : the width of an indentation that is not mixed and not misaligned;
* `indentation_aligned` : in a text without the two findings all widths are multiples of four.
-/

namespace CodeSmell

open Text

/-! ## What a scan knows of the indentation -/

/-- The flags tell whether some indentation holds a tab, or a space, and the levels are the widths above zero. -/
structure KnowsIndent (lines : List Text) (s : ScanState) : Prop where
  tabs : s.hasTabs = true ↔ ∃ line ∈ lines, '\t' ∈ Line.indent line
  spaces : s.hasSpaces = true ↔ ∃ line ∈ lines, ' ' ∈ Line.indent line
  levels : ∀ w, w ∈ s.indentLevels ↔ w ≠ 0 ∧ ∃ line ∈ lines, Line.indentWidth line = w

theorem exists_mem_concat {p : Text → Prop} {lines : List Text} {line : Text} :
    (∃ l ∈ lines ++ [line], p l) ↔ (∃ l ∈ lines, p l) ∨ p line := by
  simp [or_and_right, exists_or]

namespace KnowsIndent
variable {lines : List Text} {s : ScanState} (h : KnowsIndent lines s)
include h

theorem trackIndent (line : Text) : KnowsIndent (lines ++ [line]) (s.trackIndent line) := by
  refine ⟨?_, ?_, fun w => ?_⟩
  · rw [exists_mem_concat, ← h.tabs]
    simp [ScanState.trackIndent]
  · rw [exists_mem_concat, ← h.spaces]
    simp [ScanState.trackIndent]
  · rw [exists_mem_concat, and_or_left, ← h.levels]
    unfold ScanState.trackIndent
    dsimp only
    split_ifs with hzero
    · refine (or_iff_left ?_).symm
      rintro ⟨hw, rfl⟩
      exact hw hzero
    · rw [mem_insertLevel, or_comm]
      refine or_congr_right ⟨fun hw => ?_, fun hw => hw.2.symm⟩
      rw [hw]
      exact ⟨hzero, rfl⟩

/-- The other readers of a line leave the indentation alone. -/
theorem readLine (n : Int) (line : Text) : KnowsIndent (lines ++ [line]) (s.readLine n line).1 := by
  have htrack := h.trackIndent line
  unfold ScanState.readLine
  dsimp only
  rw [(frame_recordAssignment _ n line).1, frame_recordImports]
  exact ⟨htrack.tabs, htrack.spaces, htrack.levels⟩

end KnowsIndent

theorem knowsIndent_scanLines (lines : List Text) : KnowsIndent lines (scanLines lines).state := by
  induction lines using List.reverseRecOn with
  | nil => exact ⟨by simp [scanLines], by simp [scanLines], by simp [scanLines]⟩
  | append_singleton lines line ih =>
    rw [state_scanLines_concat]
    exact ih.readLine _ line

/-! ## Two findings -/

/-- Tabs on one line and spaces on another are mixed, too. -/
theorem not_mixed_of_not_reported {t : Text} (h : ∀ f ∈ analyze t, f.rule ≠ Rule.mixedIndentation.name) :
    ¬ ((∃ line ∈ t.lines, '\t' ∈ Line.indent line) ∧ ∃ line ∈ t.lines, ' ' ∈ Line.indent line) := by
  have hknows := knowsIndent_scanLines t.lines
  have hnone : (analyze t).filter (Finding.isOf .mixedIndentation) = [] := by
    rw [List.filter_eq_nil_iff]
    intro f hf hrule
    exact h f hf (of_decide_eq_true hrule)
  have hfound := filter_isOf_rule (c := .mixedIndentation) (by decide) t
  rw [Check.rule, hnone, Check.findings, Check.findingsIn] at hfound
  rintro ⟨htab, hspace⟩
  rw [← hknows.tabs] at htab
  rw [← hknows.spaces] at hspace
  rw [htab, hspace, Bool.and_self, if_pos rfl] at hfound
  cases hfound

/-! ## Widths -/

namespace Line

theorem indentWidth_of_tabs {line : Text} (h : ∀ c ∈ indent line, c = '\t') :
    indentWidth line = 4 * (indent line).length := by
  have hcount : (indent line).count '\t' = (indent line).length :=
    List.count_eq_length.mpr fun c hc => (h c hc).symm
  unfold indentWidth tabWidth
  omega

theorem indentWidth_of_not_tab {line : Text} (h : '\t' ∉ indent line) :
    indentWidth line = (indent line).length := by
  unfold indentWidth
  rw [List.count_eq_zero.mpr h, Nat.mul_zero, Nat.add_zero]

/-- An indentation of spaces is what the rule for lines looks at, and one of tabs is as wide as it should be. -/
theorem four_dvd_indentWidth {line : Text} (hindent : ∀ c ∈ indent line, c = ' ' ∨ c = '\t')
    (hmixed : ¬ ('\t' ∈ indent line ∧ ' ' ∈ indent line)) (haligned : misaligned line = false) :
    4 ∣ indentWidth line := by
  by_cases htab : '\t' ∈ indent line
  · have htabs : ∀ c ∈ indent line, c = '\t' := by
      intro c hc
      rcases hindent c hc with rfl | rfl
      · exact absurd ⟨htab, hc⟩ hmixed
      · rfl
    rw [indentWidth_of_tabs htabs]
    exact Nat.dvd_mul_right 4 _
  · rw [indentWidth_of_not_tab htab]
    cases hempty : indent line with
    | nil => simp
    | cons c rest =>
      rw [hempty] at htab
      simp only [misaligned, hempty, List.isEmpty_cons, Bool.not_false, Bool.true_and, Bool.and_eq_false_iff,
        Bool.not_eq_false', List.contains_iff_mem, bne_eq_false_iff_eq] at haligned
      rcases haligned with htab' | hmod
      · exact absurd htab' htab
      · exact Nat.dvd_of_mod_eq_zero hmod

end Line

/-- The scan of a text when all checks have run. -/
def scanAtEnd (t : Text) : Scan :=
  Check.all.foldl (Scan.check t) (scanLines t.lines)

/-- **Without a finding about indentation, all is indented in steps of four.** Where lines are indented with
spaces and tabs only and the analysis finds neither a misaligned indentation nor a mixed one, the width of every
line is a multiple of four, and so are the levels that the analysis ends with. -/
theorem indentation_aligned (t : Text)
    (hindent : ∀ line ∈ t.lines, ∀ c ∈ Line.indent line, c = ' ' ∨ c = '\t')
    (hclean : ∀ f ∈ analyze t, f.rule ≠ Rule.indentation.name ∧ f.rule ≠ Rule.mixedIndentation.name) :
    (∀ line ∈ t.lines, 4 ∣ Line.indentWidth line) ∧
    ∀ w ∈ (scanAtEnd t).state.indentLevels, 4 ∣ w := by
  have hmixed := not_mixed_of_not_reported fun f hf => (hclean f hf).2
  have haligned : ∀ line ∈ t.lines, Line.misaligned line = false := by
    intro line hline
    rw [Bool.eq_false_iff]
    intro hmis
    obtain ⟨f, hf, hrule⟩ := (exists_reported_iff (r := .indentation) rfl).mpr ⟨line, hline, hmis⟩
    exact (hclean f hf).1 hrule
  have hwidth : ∀ line ∈ t.lines, 4 ∣ Line.indentWidth line := by
    intro line hline
    refine Line.four_dvd_indentWidth (hindent line hline) ?_ (haligned line hline)
    rintro ⟨htab, hspace⟩
    exact hmixed ⟨⟨line, hline, htab⟩, ⟨line, hline, hspace⟩⟩
  refine ⟨hwidth, fun w hw => ?_⟩
  have hlevels : (scanAtEnd t).state.indentLevels = (scanLines t.lines).state.indentLevels :=
    eq_foldl_check (fun _ _ => rfl) t _ _
  rw [hlevels, (knowsIndent_scanLines t.lines).levels] at hw
  obtain ⟨-, line, hline, rfl⟩ := hw
  exact hwidth line hline

/-- A line that is indented with a tab, and one with two. -/
theorem indentation_aligned_tabs :
    (∀ f ∈ analyze "if a:\n\tif b:\n\t\tc()\n".toList,
      f.rule ≠ Rule.indentation.name ∧ f.rule ≠ Rule.mixedIndentation.name) ∧
    (scanAtEnd "if a:\n\tif b:\n\t\tc()\n".toList).state.indentLevels = [4, 8] ∧
    ∀ w ∈ (scanAtEnd "if a:\n\tif b:\n\t\tc()\n".toList).state.indentLevels, 4 ∣ w := by
  have hclean : ∀ f ∈ analyze "if a:\n\tif b:\n\t\tc()\n".toList,
      f.rule ≠ Rule.indentation.name ∧ f.rule ≠ Rule.mixedIndentation.name := by decide +kernel
  have hindent : (Text.lines "if a:\n\tif b:\n\t\tc()\n".toList).all
      (fun line => (Line.indent line).all fun c => c == ' ' || c == '\t') = true := by decide +kernel
  refine ⟨hclean, by decide +kernel, (indentation_aligned _ (fun line hline c hc => ?_) hclean).2⟩
  simpa using List.all_eq_true.mp (List.all_eq_true.mp hindent line hline) c hc

end CodeSmell
