import CodeSmell.Proofs.LineEndings
import CodeSmell.Proofs.Scan.Checks

/-!
# A final line feed adds nothing

A line feed at the end of a text adds an empty line. No rule finds anything on that line, no state
changes on it, and the checks of the whole text do not see it, but for the one that asks for it.

* `lines_append_feed`, `wordTails_append_feed`, `isUnused_append_feed` : the lines, the words and the unused
  names of a text with one line feed more;
* `scanLines_concat_nil` : a scan passes over an empty line at the end;
* `Check.findings_append_feed` : what a check finds after the scan;
* `analyze_append_feeds` : all findings stay, apart from the one about the missing line feed.
-/

namespace CodeSmell

open Text

namespace Text

/-! ## Lines and words -/

theorem lines_append_feed (t : Text) : lines (t ++ ['\n']) = lines t ++ [[]] :=
  lines_join t []

theorem words_append_feed (t : Text) : words (t ++ ['\n']) = words t := by
  rw [words_append_cons isWord_feed, words_nil, List.append_nil]

theorem wordTailsFrom_append_feed (inWord : Bool) (found : List Text) (t : Text) :
    wordTailsFrom inWord (found.map (· ++ ['\n'])) (t ++ ['\n']) =
      (wordTailsFrom inWord found t).map (· ++ ['\n']) := by
  induction t generalizing inWord found with
  | nil => simp [wordTailsFrom, isWord_feed]
  | cons c t ih =>
    rw [List.cons_append, wordTailsFrom, wordTailsFrom]
    split_ifs
    · exact ih true ((c :: t) :: found)
    · exact ih _ found

theorem wordTails_append_feed (t : Text) : wordTails (t ++ ['\n']) = (wordTails t).map (· ++ ['\n']) :=
  wordTailsFrom_append_feed false [] t

/-! ## Names and calls -/

theorem head?_dropWhile_append_feed (t : Text) :
    ((t ++ ['\n']).dropWhile isSpace).head? = (t.dropWhile isSpace).head? := by
  rw [List.dropWhile_append]
  cases hrest : t.dropWhile isSpace with
  | nil => simp [isSpace_feed]
  | cons c rest => simp

theorem startsWithCall_append_feed {name : Text} (hn : '\n' ∉ name) (t : Text) :
    Line.startsWithCall name (t ++ ['\n']) = Line.startsWithCall name t := by
  rw [Line.startsWithCall, Line.startsWithCall, after?_append_cons hn]
  cases after? name t with
  | none => rfl
  | some rest => simp only [Option.map_some, head?_dropWhile_append_feed]

end Text

/-! ## Parts of checks -/

theorem isUnused_append_feed (t name : Text) : isUnused (t ++ ['\n']) name = isUnused t name := by
  unfold isUnused occurrences?
  split_ifs with hid
  · have hne : name ≠ [] := by
      rintro rfl
      cases hid
    have hn : '\n' ∉ name := notMem_of_isIdentifier hid (by decide) (by decide)
    rw [occurrencesFrom_append_cons hn hne isWord_feed _ _ _ _ _ (Nat.zero_le _), occurrencesFrom]
  · rfl

theorem printCalls_append_feed (t : Text) : printCalls (t ++ ['\n']) = printCalls t := by
  rw [printCalls, printCalls, wordTails_append_feed, List.countP_map]
  refine List.countP_congr fun x _ => ?_
  rw [Function.comp_apply, startsWithCall_append_feed (by decide)]

theorem readsAsProse_append_feed (t : Text) : readsAsProse (t ++ ['\n']) = readsAsProse t := by
  have hcode : hasCodeToken (t ++ ['\n']) = hasCodeToken t := by
    rw [hasCodeToken, hasCodeToken, words_append_feed]
    simp
  rw [readsAsProse, readsAsProse, hcode]
  simp only [isEmpty_strip, all_strip fun _ => isProseChar_of_isSpace, List.all_append, List.all_cons,
    List.all_nil, isSpace_feed, isProseChar_of_isSpace isSpace_feed, Bool.and_true]

theorem proseExcerpt_append_feed (t : Text) : proseExcerpt (t ++ ['\n']) = proseExcerpt t := by
  rw [proseExcerpt, proseExcerpt, words_append_feed]

/-! ## The empty line -/

/-- The estimate never exceeds the greatest depth. -/
theorem Nesting.depth_le_deepest (widths : List Nat) :
    (widths.foldl Nesting.step {}).depth ≤ (widths.foldl Nesting.step {}).deepest := by
  induction widths using List.reverseRecOn with
  | nil => exact Nat.le_refl 0
  | append_singleton widths w _ =>
    rw [List.foldl_append, List.foldl_cons, List.foldl_nil, Nesting.step]
    exact Nat.le_max_right _ _

/-- A line without indentation at the end goes no deeper. -/
theorem Nesting.deepestOf_concat_zero (widths : List Nat) :
    Nesting.deepestOf (widths ++ [0]) = Nesting.deepestOf widths := by
  have hle := Nesting.depth_le_deepest widths
  rw [Nesting.deepestOf, List.foldl_append, List.foldl_cons, List.foldl_nil, Nesting.step,
    Nesting.deepestOf]
  simp only
  split_ifs <;> omega

theorem unreachableLines_concat_nil (lines : List Text) :
    unreachableLines (lines ++ [[]]) = unreachableLines lines := by
  have hstep : ∀ (s : Bool × List (Text × Nat)) (n : Nat), unreachableStep s ([], n) = s := by
    intro s n
    simp [unreachableStep, strip, isReturn, isSignificant, firstWord]
  rw [unreachableLines, List.zipIdx_append, List.foldl_append, List.zipIdx_singleton, List.foldl_cons,
    List.foldl_nil, hstep, ← unreachableLines]

theorem ScanState.readLine_nil (s : ScanState) (n : Int) : s.readLine n [] = (s, []) := by
  have hrules : Line.rules.filterMap (· []) = [] := by decide
  have hindent : s.trackIndent [] = s := by
    simp [trackIndent, Line.indentWidth, Line.indent]
  have himports : Line.importedNames? [] = none := by decide
  have hassigned : Line.assignedName? [] = none := by decide
  have hbrackets : Bracket.readLine n s.openBrackets [] = { stack := s.openBrackets } := rfl
  simp [readLine, hindent, recordImports, himports, recordAssignment, hassigned, hbrackets,
    Line.findings, hrules, Bracket.strayFindings]

theorem scanLines_concat_nil (lines : List Text) : scanLines (lines ++ [[]]) = scanLines lines := by
  rw [scanLines_concat, Scan.read, ScanState.readLine_nil]
  simp

/-! ## The analysis -/

theorem variableFinding_concat {lines : List Text} {a : Text × Int} {i : ℕ} {line : Text}
    (hn : a.2 = (i + 1 : ℕ)) (hline : lines[i]? = some line) (last : Text) :
    variableFinding (lines ++ [last]) a = variableFinding lines a := by
  have hi := (List.getElem?_eq_some_iff.mp hline).1
  have hindex : (a.2 - 1).toNat = i := by omega
  rw [variableFinding, variableFinding, hindex, List.getElem?_append_left hi]

/-- After the scan of a text, a check finds the same with one line feed more, unless it is the one that asks
for it. -/
theorem Check.findings_append_feed {c : Check} (hc : c ≠ .finalNewline) (t : Text) :
    c.findings (t ++ ['\n']) (scanLines t.lines).state = c.findings t (scanLines t.lines).state := by
  rw [findings, findings, lines_append_feed]
  cases c with
  | mixedIndentation => rfl
  | indentLevels => rfl
  | duplicateImports => rfl
  | unusedImports =>
    have hunused : isUnused (t ++ ['\n']) = isUnused t := funext (isUnused_append_feed t)
    rw [findingsIn, findingsIn, hunused]
  | finalNewline => exact absurd rfl hc
  | unclosedBrackets => rfl
  | deepNesting =>
    have hwidth : Line.indentWidth [] = 0 := rfl
    rw [findingsIn, findingsIn, List.map_append, List.map_singleton, hwidth,
      Nesting.deepestOf_concat_zero]
  | debugPrints => rw [findingsIn, findingsIn, printCalls_append_feed]
  | unreachableCode => rw [findingsIn, findingsIn, unreachableLines_concat_nil]
  | plainText => rw [findingsIn, findingsIn, readsAsProse_append_feed, proseExcerpt_append_feed]
  | unusedVariables =>
    have hscan := unusedVariables_scanLines (t ++ ['\n'])
    rw [lines_append_feed, scanLines_concat_nil] at hscan
    have hunused : isUnused (t ++ ['\n']) = isUnused t := funext (isUnused_append_feed t)
    rw [findingsIn, findingsIn, hscan, unusedVariables_scanLines, hunused]
    refine List.map_congr_left fun a ha => ?_
    obtain ⟨i, line, hn, hline⟩ := assignedWithin_scanLines t.lines a (List.mem_filter.mp ha).1
    exact variableFinding_concat hn hline []

theorem analyze_append_feed (t : Text) :
    analyze (t ++ ['\n']) = (analyze t).filter (!Finding.isOf .finalNewline ·) := by
  have hnone : (analyze (t ++ ['\n'])).filter (Finding.isOf .finalNewline) = [] := by
    refine (filter_isOf_rule (c := .finalNewline) (by decide) _).trans ?_
    simp [Check.findings, Check.findingsIn, endsWith]
  have hself : (analyze (t ++ ['\n'])).filter (!Finding.isOf .finalNewline ·) =
      analyze (t ++ ['\n']) := by
    rw [List.filter_eq_self]
    intro f hf
    simpa using List.filter_eq_nil_iff.mp hnone f hf
  rw [← hself, filter_not_isOf_analyze rfl (by decide), filter_not_isOf_analyze rfl (by decide),
    lines_append_feed, scanLines_concat_nil]
  congr 1
  refine List.flatMap_congr fun c hc => Check.findings_append_feed ?_ t
  rintro rfl
  exact absurd (List.mem_filter.mp hc).2 (by decide)

/-- **A final line feed changes nothing else.** With line feeds at its end, a text has all its findings
but the one about the missing line feed. -/
theorem analyze_append_feeds (t : Text) (k : ℕ) (hk : 1 ≤ k) :
    analyze (t ++ List.replicate k '\n') =
      (analyze t).filter (fun f => f.rule ≠ Rule.finalNewline.name) := by
  have hfilter : (fun f : Finding => decide (f.rule ≠ Rule.finalNewline.name)) =
      (!Finding.isOf .finalNewline ·) := by
    funext f
    rw [Finding.isOf, decide_not]
  rw [hfilter]
  induction k, hk using Nat.le_induction with
  | base => exact analyze_append_feed t
  | succ k hk ih =>
    rw [List.replicate_succ', ← List.append_assoc, analyze_append_feed, ih, List.filter_filter]
    simp only [Bool.and_self]

/-- A text that ends in a carriage return inside an open bracket. -/
theorem analyze_append_feeds_call :
    (∃ f ∈ analyze "x = f(\r".toList, f.rule = Rule.finalNewline.name) ∧
      analyze "x = f(\r\n\n".toList =
        (analyze "x = f(\r".toList).filter (fun f => f.rule ≠ Rule.finalNewline.name) :=
  ⟨by decide, analyze_append_feeds "x = f(\r".toList 2 (by decide)⟩

end CodeSmell
