import CodeSmell.Proofs.Scan.State

/-!
# What the checks find after a scan

* `filter_isOf_rule`, `filter_not_isOf_analyze` : what a check finds can be told by its rule;
* `lineAt_succ` : the line with a number in range;
* `mem_unreachableLines` : code after a return is a line of the text with its number, and
  `unreachableLines_eq_nil` : there is none without a return;
* `unusedVariables_scanLines` : the check of assigned names never fails after a scan, and finds one smell for
  each assigned name that is unused, on the line where the scan has first seen it.
-/

namespace CodeSmell

open Text

/-! ## The findings of one check -/

/-- The findings of the lines are of rules for lines, or about stray closers. -/
theorem isOf_of_mem_scanLines {r : Rule} (hline : r.ofLine = false) (hstray : r ≠ .unmatchedBracket)
    {lines : List Text} {f : Finding} (hf : f ∈ (scanLines lines).findings.toList) :
    Finding.isOf r f = false := by
  induction lines using List.reverseRecOn with
  | nil => simp [scanLines] at hf
  | append_singleton lines line ih =>
    rw [scanLines_concat, Scan.read_findings, List.mem_append] at hf
    rcases hf with hf | hf
    · exact ih hf
    · rcases List.mem_append.mp hf with hf | hf
      · exact Line.isOf_of_mem_findings hline hf
      · rw [Bracket.isOf_of_mem_strayFindings hf, decide_eq_false_iff_not]
        exact hstray.symm

/-- The findings under the rule of a check are those of the check, stray closers aside. -/
theorem filter_isOf_rule {c : Check} (hc : c ≠ .unclosedBrackets) (t : Text) :
    (analyze t).filter (Finding.isOf c.rule) = c.findings t (scanLines t.lines).state := by
  have hself : Check.all.filter (·.rule = c.rule) = [c] := by
    cases c <;> decide
  have hline : c.rule.ofLine = false := by
    cases c <;> rfl
  have hstray : c.rule ≠ .unmatchedBracket := by
    revert hc
    cases c <;> decide
  have hlines : (scanLines t.lines).findings.toList.filter (Finding.isOf c.rule) = [] := by
    rw [List.filter_eq_nil_iff]
    intro f hf
    rw [isOf_of_mem_scanLines hline hstray hf]
    exact Bool.false_ne_true
  rw [filter_isOf_analyze, hlines, hself, List.nil_append, List.flatMap_singleton]

/-- Without the findings of such a rule, those of the lines and of the other checks are left. -/
theorem filter_not_isOf_analyze {r : Rule} (hline : r.ofLine = false) (hstray : r ≠ .unmatchedBracket)
    (t : Text) : (analyze t).filter (!Finding.isOf r ·) =
      (scanLines t.lines).findings.toList ++
        (Check.all.filter fun c => !decide (c.rule = r)).flatMap fun c =>
          c.findings t (scanLines t.lines).state := by
  have hlines : (scanLines t.lines).findings.toList.filter (!Finding.isOf r ·) =
      (scanLines t.lines).findings.toList := by
    rw [List.filter_eq_self]
    intro f hf
    rw [isOf_of_mem_scanLines hline hstray hf]
    rfl
  rw [analyze_eq, List.filter_append, hlines, Check.filter_flatMap_findings not]

/-! ## Lines by their numbers -/

theorem lineAt_succ {lines : List Text} {i : Nat} {line : Text} (h : lines[i]? = some line) :
    lineAt lines (i + 1 : ℕ) = .ok line := by
  have hindex : ((i + 1 : ℕ) : ℤ) - 1 = (i : ℤ) := by omega
  have hitem : itemAt? lines (i : ℤ) = some line := by
    have hpos : ¬ (i : ℤ) < 0 := by omega
    simp [itemAt?, hpos, h]
  rw [lineAt, itemAt, hindex, hitem]

/-! ## Code after a return -/

theorem mem_foldl_unreachableStep {lines : List (Text × Nat)} {s : Bool × List (Text × Nat)}
    {l : Text × Nat} (h : l ∈ (lines.foldl unreachableStep s).2) :
    l ∈ s.2 ∨ l ∈ lines ∧ isSignificant (strip l.1) = true := by
  induction lines generalizing s with
  | nil => exact Or.inl h
  | cons x lines ih =>
    rcases ih h with hs | ⟨hl, hsig⟩
    · unfold unreachableStep at hs
      simp only at hs
      split_ifs at hs with _ hx
      · exact Or.inl hs
      · rcases List.mem_cons.mp hs with rfl | hs
        · exact Or.inr ⟨List.mem_cons_self, (Bool.and_eq_true_iff.mp hx).2⟩
        · exact Or.inl hs
      · exact Or.inl hs
    · exact Or.inr ⟨List.mem_cons_of_mem _ hl, hsig⟩

theorem mem_unreachableLines {lines : List Text} {line : Text} {n : Nat}
    (h : (line, n) ∈ unreachableLines lines) :
    ∃ i, n = i + 1 ∧ lines[i]? = some line ∧ isSignificant (strip line) = true := by
  rcases mem_foldl_unreachableStep (List.mem_reverse.mp h) with h | ⟨h, hsig⟩
  · cases h
  · obtain ⟨hle, hline⟩ := List.mk_mem_zipIdx_iff_le_and_getElem?_sub.mp h
    exact ⟨n - 1, by omega, hline, hsig⟩

/-- Where no line is a `return`, no code is found after one. -/
theorem unreachableLines_eq_nil {lines : List Text}
    (h : ∀ line ∈ lines, isReturn (strip line) = false) : unreachableLines lines = [] := by
  have key : ∀ l : List (Text × Nat), (∀ x ∈ l, isReturn (strip x.1) = false) →
      l.foldl unreachableStep (false, []) = (false, []) := by
    intro l
    induction l with
    | nil => intro _; rfl
    | cons x l ih =>
      intro hl
      have hstep : unreachableStep (false, []) x = (false, []) := by
        simp [unreachableStep, hl x List.mem_cons_self]
      rw [List.foldl_cons, hstep]
      exact ih fun y hy => hl y (List.mem_cons_of_mem _ hy)
  rw [unreachableLines, key, List.reverse_nil]
  rintro ⟨line, n⟩ hx
  exact h line (List.fst_mem_of_mem_zipIdx hx)

/-! ## Assigned names -/

def variableFinding (lines : List Text) (a : Text × Int) : Finding :=
  (Smell.unusedVariable a.1).finding (some a.2) lines[(a.2 - 1).toNat]?

/-- The number of each assigned name is that of a line. -/
def AssignedWithin (lines : List Text) (assigned : List (Text × Int)) : Prop :=
  ∀ a ∈ assigned, ∃ i line, a.2 = (i + 1 : ℕ) ∧ lines[i]? = some line

theorem unusedVariablesFrom_eq (t : Text) {lines : List Text} {assigned : List (Text × Int)}
    (h : AssignedWithin lines assigned) (found : List Finding) :
    unusedVariablesFrom t lines found assigned =
      (found.reverse ++ (assigned.filter (isUnused t ·.1)).map (variableFinding lines), none) := by
  induction assigned generalizing found with
  | nil => simp [unusedVariablesFrom]
  | cons a assigned ih =>
    obtain ⟨name, n⟩ := a
    obtain ⟨i, line, hn, hline⟩ := h (name, n) List.mem_cons_self
    obtain rfl : n = (i + 1 : ℕ) := hn
    have hrest : AssignedWithin lines assigned := fun b hb => h b (List.mem_cons_of_mem _ hb)
    rw [unusedVariablesFrom, List.filter_cons]
    by_cases hu : isUnused t name = true
    · have hfinding : variableFinding lines (name, (i + 1 : ℕ)) =
          (Smell.unusedVariable name).onLine (i + 1 : ℕ) line := by
        simp [variableFinding, Smell.onLine, hline]
      rw [if_pos hu, if_pos hu, lineAt_succ hline]
      simp only
      rw [ih hrest, List.map_cons, hfinding]
      simp
    · rw [if_neg hu, if_neg hu, ih hrest]

theorem assignedWithin_scanLines (lines : List Text) :
    AssignedWithin lines (scanLines lines).state.assigned := by
  rintro ⟨name, n⟩ hmem
  obtain ⟨i, hi, rfl⟩ := (recordsFirst_scanLines lines name n).mp hmem
  obtain ⟨line, hline, -⟩ := assignedName?_of_firstAssignment? hi
  exact ⟨i, line, rfl, hline⟩

theorem unusedVariables_scanLines (t : Text) :
    unusedVariables t t.lines (scanLines t.lines).state.assigned =
      (((scanLines t.lines).state.assigned.filter (isUnused t ·.1)).map (variableFinding t.lines),
        none) :=
  unusedVariablesFrom_eq t (assignedWithin_scanLines t.lines) []

end CodeSmell
