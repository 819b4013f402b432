import CodeSmell.Proofs.Scan.Analysis
import CodeSmell.Proofs.Text.Blanks
import CodeSmell.Proofs.Text.Newlines
import CodeSmell.Report
import CodeSmell.Score

/-!
# Line ends do not matter to an analysis

The rules for lines see lines without their ends, but the checks of the whole text see the text as it
is. Each of them is shown here to be blind to the carriage return of a line end.

* `isUnused_crlfToLf`, `printCalls_crlfToLf`, `readsAsProse_crlfToLf`, `proseExcerpt_crlfToLf` : the
  parts of the checks that read the text;
* `Check.findings_crlfToLf` : what a check finds after any scan;
* `analyze_crlfToLf` : the analysis, its score and its report.
-/

namespace CodeSmell

open Text

theorem Text.notMem_of_isIdentifier {name : Text} (h : name.isIdentifier = true) {c : Char}
    (hstart : isIdentifierStart c = false) (hpart : isIdentifierPart c = false) : c ∉ name := by
  cases name with
  | nil => exact List.not_mem_nil
  | cons d name =>
    rw [isIdentifier, Bool.and_eq_true, List.all_eq_true] at h
    intro hc
    rcases List.mem_cons.mp hc with rfl | hc
    · rw [h.1] at hstart
      cases hstart
    · rw [h.2 c hc] at hpart
      cases hpart

theorem isProseChar_of_isSpace {c : Char} (h : isSpace c = true) : isProseChar c = true := by
  simp [isProseChar, h]

section
variable {t : Text} (h : Crlf t)
include h

/-! ## Parts of checks -/

theorem isUnused_crlfToLf (name : Text) : isUnused (crlfToLf t) name = isUnused t name := by
  unfold isUnused occurrences?
  split_ifs with hid
  · have hne : name ≠ [] := by
      rintro rfl
      cases hid
    have hr : '\r' ∉ name := notMem_of_isIdentifier hid (by decide) (by decide)
    have hn : '\n' ∉ name := notMem_of_isIdentifier hid (by decide) (by decide)
    rw [occurrencesFrom_crlfToLf hne hr hn h false 0 0 (by simp)]
  · rfl

theorem printCalls_crlfToLf : printCalls (crlfToLf t) = printCalls t := by
  rw [printCalls, printCalls, wordTails_crlfToLf h, List.countP_map]
  refine List.countP_congr fun x hx => ?_
  rw [Function.comp_apply, startsWithCall_crlfToLf (crlf_of_mem_wordTails h hx) (by decide) (by decide)]

theorem hasCodeToken_crlfToLf : hasCodeToken (crlfToLf t) = hasCodeToken t := by
  have hcolon : (crlfToLf t).contains ':' = t.contains ':' := by
    rw [Bool.eq_iff_iff, List.contains_iff_mem, List.contains_iff_mem, mem_crlfToLf h (by decide)]
  rw [hasCodeToken, hasCodeToken, hcolon, words_crlfToLf h]

theorem readsAsProse_crlfToLf : readsAsProse (crlfToLf t) = readsAsProse t := by
  have hspace : isSpace '\r' = isSpace '\n' := by rw [isSpace_return, isSpace_feed]
  have hprose : isProseChar '\r' = isProseChar '\n' := by
    rw [isProseChar_of_isSpace isSpace_return, isProseChar_of_isSpace isSpace_feed]
  rw [readsAsProse, readsAsProse, hasCodeToken_crlfToLf h]
  simp only [isEmpty_strip, all_strip fun _ => isProseChar_of_isSpace]
  rw [all_crlfToLf h hspace, all_crlfToLf h hprose]

theorem proseExcerpt_crlfToLf : proseExcerpt (crlfToLf t) = proseExcerpt t := by
  rw [proseExcerpt, proseExcerpt, words_crlfToLf h]

theorem unusedVariablesFrom_crlfToLf (lines : List Text) (assigned : List (Text × Int))
    (found : List Finding) :
    unusedVariablesFrom (crlfToLf t) lines found assigned = unusedVariablesFrom t lines found assigned := by
  induction assigned generalizing found with
  | nil => rfl
  | cons a assigned ih =>
    obtain ⟨name, n⟩ := a
    simp only [unusedVariablesFrom, isUnused_crlfToLf h, ih]

/-! ## Checks -/

/-- What a check finds does not depend on the line ends. -/
theorem Check.findings_crlfToLf (s : ScanState) (c : Check) :
    c.findings (crlfToLf t) s = c.findings t s := by
  rw [findings, findings, lines_crlfToLf h]
  cases c with
  | mixedIndentation => rfl
  | indentLevels => rfl
  | duplicateImports => rfl
  | unusedImports =>
    have hunused : isUnused (crlfToLf t) = isUnused t := funext (isUnused_crlfToLf h)
    rw [findingsIn, findingsIn, hunused]
  | finalNewline => rw [findingsIn, findingsIn, isEmpty_crlfToLf h, endsWith, endsWith, getLast?_crlfToLf h]
  | unclosedBrackets => rfl
  | deepNesting => rfl
  | debugPrints => rw [findingsIn, findingsIn, printCalls_crlfToLf h]
  | unreachableCode => rfl
  | plainText => rw [findingsIn, findingsIn, readsAsProse_crlfToLf h, proseExcerpt_crlfToLf h]
  | unusedVariables =>
    rw [findingsIn, findingsIn, CodeSmell.unusedVariables, CodeSmell.unusedVariables,
      unusedVariablesFrom_crlfToLf h]

theorem analyze_eq_analyze_crlfToLf : analyze t = analyze (crlfToLf t) := by
  rw [analyze_eq, analyze_eq, lines_crlfToLf h]
  simp only [Check.findings_crlfToLf h]

end

/-- **Line ends do not matter.** A text whose carriage returns all stand before line feeds has the
findings, the score and the report of the text without them. -/
theorem analyze_crlfToLf (t : Text) (h : CrBeforeLf t) :
    analyze t = analyze (crlfToLf t) ∧
      healthScore (analyze t) = healthScore (analyze (crlfToLf t)) ∧
      formatReport (analyze t) = formatReport (analyze (crlfToLf t)) := by
  have hfindings := analyze_eq_analyze_crlfToLf h.crlf
  exact ⟨hfindings, by rw [← hfindings], by rw [← hfindings]⟩

/-- A call and a bracket that go over a line end. -/
theorem analyze_crlf_call :
    CrBeforeLf "import os\r\nprint\r\n(x\n".toList ∧
      analyze "import os\r\nprint\r\n(x\n".toList = analyze "import os\nprint\n(x\n".toList :=
  ⟨by decide, (analyze_crlfToLf _ (by decide)).1⟩

end CodeSmell
