import CodeSmell.Proofs.Line.Imports
import CodeSmell.Proofs.Scan.Checks
import CodeSmell.Proofs.Scan.Sound

/-!
# Import statements and their lines

A scan keeps a log of the import statements, and a statement that comes again is not logged anew: its entry
gets one more line number.

* `length_numbersOf`, `numbersOf_eq_cons`, `pairwise_numbersOf` : the numbers of the lines that are equal to a
  text are as many as these lines, the first is that of the first such line, and they increase;
* `GroupsImports lines log` : the statements of the log are the lines that import, in the order in which they
  come first, each with the numbers of all lines that are equal to it; `groupsImports_scanLines`;
* `findings_duplicateImports` : what the check makes of such a log;
* `repeatedImport_findings` : a repeated import is found once for each import line that the text has twice or
  more, at the first of these lines.
-/

namespace CodeSmell

/-! ## The numbers of equal lines -/

section
variable (lines : List Text) (x : Text)

theorem length_numbersOf : (numbersOf lines x).length = lines.count x := by
  induction lines using List.reverseRecOn with
  | nil => rfl
  | append_singleton lines line ih =>
    rw [numbersOf_concat, List.length_append, ih, List.count_append, List.count_singleton]
    split_ifs <;> simp_all

theorem pairwise_numbersOf : (numbersOf lines x).Pairwise (· < ·) :=
  List.pairwise_map.mpr ((pairwise_snd_zipIdx lines 1).filter _)

end

/-- The first number is that of the first line that is equal to the text. -/
theorem numbersOf_eq_cons {lines : List Text} {x : Text} (h : x ∈ lines) :
    ∃ rest, numbersOf lines x = (lines.idxOf x + 1) :: rest := by
  induction lines using List.reverseRecOn with
  | nil => cases h
  | append_singleton lines line ih =>
    rw [numbersOf_concat]
    by_cases hmem : x ∈ lines
    · obtain ⟨rest, hrest⟩ := ih hmem
      rw [List.idxOf_append_of_mem hmem, hrest]
      exact ⟨_, rfl⟩
    · obtain rfl : x = line := by simpa [hmem] using h
      have hnone : numbersOf lines x = [] := by
        rw [← List.length_eq_zero_iff, length_numbersOf, List.count_eq_zero]
        exact hmem
      rw [List.idxOf_append_of_notMem hmem, hnone, if_pos rfl]
      exact ⟨[], by simp⟩

/-! ## The log -/

/-- The statements of the log are the lines that import, in the order in which they come first. The numbers of a
statement are those of all lines that are equal to it, in increasing order. -/
structure GroupsImports (lines : List Text) (log : List ImportLine) : Prop where
  statements : ∀ x, x ∈ log.map (·.statement) ↔ x ∈ lines ∧ Line.IsImport x
  inOrder : (log.map (·.statement)).Pairwise fun x y => lines.idxOf x < lines.idxOf y
  numbers : ∀ l ∈ log, ∀ n, n ∈ l.lineNumbers ↔ ∃ i, n = ((i + 1 : ℕ) : ℤ) ∧ lines[i]? = some l.statement
  increasing : ∀ l ∈ log, l.lineNumbers.Pairwise (· < ·)

theorem mem_statements_scanLines {lines : List Text} {x : Text} :
    x ∈ (scanLines lines).state.importLines.map (·.statement) ↔ x ∈ lines ∧ Line.IsImport x := by
  rw [List.mem_map, (logsImports_scanLines lines).statement, Line.isSome_importedNames?_iff]

/-- The order of first lines stays when a line is added. -/
theorem pairwise_idxOf_concat {lines statements : List Text} (hmem : ∀ x ∈ statements, x ∈ lines)
    (h : statements.Pairwise fun x y => lines.idxOf x < lines.idxOf y) (line : Text) :
    statements.Pairwise fun x y => (lines ++ [line]).idxOf x < (lines ++ [line]).idxOf y := by
  refine h.imp_of_mem fun {x y} hx hy hlt => ?_
  rwa [List.idxOf_append_of_mem (hmem x hx), List.idxOf_append_of_mem (hmem y hy)]

theorem pairwise_statements_scanLines (lines : List Text) :
    ((scanLines lines).state.importLines.map (·.statement)).Pairwise
      fun x y => lines.idxOf x < lines.idxOf y := by
  induction lines using List.reverseRecOn with
  | nil => exact List.Pairwise.nil
  | append_singleton lines line ih =>
    have hmem : ∀ x ∈ (scanLines lines).state.importLines.map (·.statement), x ∈ lines :=
      fun x hx => (mem_statements_scanLines.mp hx).1
    have hkeep := pairwise_idxOf_concat hmem ih line
    rw [state_scanLines_concat, ScanState.importLines_readLine]
    split_ifs with himport
    · rw [ScanState.map_statement_addImportLine]
      split_ifs with hany
      · exact hkeep
      · -- a statement that is not in the log stands on no line before
        have hnew : line ∉ lines := by
          intro hline
          have hlogged := mem_statements_scanLines.mpr ⟨hline, Line.isSome_importedNames?_iff.mp himport⟩
          obtain ⟨l, hl, hsame⟩ := List.mem_map.mp hlogged
          exact hany (List.any_eq_true.mpr ⟨l, hl, decide_eq_true hsame⟩)
        refine List.pairwise_append.mpr ⟨hkeep, List.pairwise_singleton _ _, fun x hx y hy => ?_⟩
        rw [List.mem_singleton.mp hy, List.idxOf_append_of_mem (hmem x hx), List.idxOf_append_of_notMem hnew]
        exact (List.idxOf_lt_length_of_mem (hmem x hx)).trans_le (Nat.le_add_right _ _)
    · exact hkeep

theorem groupsImports_scanLines (lines : List Text) :
    GroupsImports lines (scanLines lines).state.importLines := by
  have hnumbers := (logsImports_scanLines lines).numbers
  refine ⟨fun x => mem_statements_scanLines, pairwise_statements_scanLines lines, fun l hl n => ?_,
    fun l hl => ?_⟩
  · rw [hnumbers l hl, List.mem_map]
    constructor
    · rintro ⟨m, hm, rfl⟩
      obtain ⟨i, rfl, hi⟩ := mem_numbersOf.mp hm
      exact ⟨i, rfl, hi⟩
    · rintro ⟨i, rfl, hi⟩
      exact ⟨i + 1, mem_numbersOf.mpr ⟨i, rfl, hi⟩, rfl⟩
  · rw [hnumbers l hl]
    exact List.pairwise_map.mpr ((pairwise_numbersOf lines l.statement).imp fun h => Int.ofNat_lt.mpr h)

/-! ## Repeated imports -/

theorem findings_duplicateImports (t : Text) :
    Check.duplicateImports.findings t (scanLines t.lines).state =
      (((scanLines t.lines).state.importLines.map (·.statement)).filter (2 ≤ t.lines.count ·)).map
        fun x => (Smell.repeatedImport (t.lines.count x)).onLine (t.lines.idxOf x + 1 : ℕ) x := by
  rw [List.filter_map, List.map_map, ← List.filterMap_eq_map, List.filterMap_filter, Check.findings, Check.findingsIn]
  refine List.filterMap_congr fun l hl => ?_
  have hline : l.statement ∈ t.lines := (mem_statements_scanLines.mp (List.mem_map_of_mem hl)).1
  have hlength := length_numbersOf t.lines l.statement
  obtain ⟨rest, hrest⟩ := numbersOf_eq_cons hline
  rw [(logsImports_scanLines t.lines).numbers l hl, hrest]
  rw [hrest] at hlength
  cases rest with
  | nil => simp [← hlength]
  | cons n rest => simp [← hlength]

/-- **Repeated imports are found once each.** A scan groups the lines that import by their texts, in the order in
which these come first, and keeps the numbers of all lines of a group. So a text with an import line that it has
twice or more has one finding about it, which stands at the first of these lines and tells how many they are. -/
theorem repeatedImport_findings (t : Text) :
    GroupsImports t.lines (scanLines t.lines).state.importLines ∧
    (analyze t).filter (·.rule = Rule.duplicateImport.name) =
      (((scanLines t.lines).state.importLines.map (·.statement)).filter (2 ≤ t.lines.count ·)).map
        fun x => (Smell.repeatedImport (t.lines.count x)).onLine (t.lines.idxOf x + 1 : ℕ) x := by
  refine ⟨groupsImports_scanLines t.lines, ?_⟩
  exact (filter_isOf_rule (c := .duplicateImports) (by decide) t).trans (findings_duplicateImports t)

end CodeSmell
