import CodeSmell.Proofs.Scan.Analysis
import CodeSmell.Proofs.Text.Lines

/-!
# Scans of texts that are put together

A line is looked at by itself, apart from its brackets. So what a scan finds in two texts with a line feed
between them is what it finds in each, the lines of the second counted on from the first. The brackets are
matched over all lines, and the same holds of them when the first text leaves none open.

* `Finding.down`, `OpenBracket.down`, `Bracket.Matching.down` : the same, some lines further down;
* `Bracket.readLine_down` : a line that is read further down;
* `lineFindings t` : what the scan of the lines of `t` finds;
* `filter_not_isOf_lineFindings` : without the stray closers, each line has its findings for itself;
* `Scan.Below k earlier s s'` : the scan `s'` does what `s` does, `k` lines further down and after the findings
  `earlier`; `Below.read`, `below_foldl`;
* `lineFindings_join` : the findings of two texts that are put together.
-/

namespace CodeSmell

open Text

/-! ## Further down -/

/-- The finding, if it stands on a line, `k` lines further down. -/
def Finding.down (k : ℕ) (f : Finding) : Finding :=
  { f with line := f.line.map (· + (k : ℤ)) }

def OpenBracket.down (k : ℕ) (b : OpenBracket) : OpenBracket :=
  { b with line := b.line + k }

theorem Line.map_down_findings (k : ℕ) (n : ℤ) (line : Text) :
    (Line.findings n line).map (Finding.down k) = Line.findings (n + k) line := by
  rw [Line.findings, Line.findings, List.map_map]
  rfl

namespace Bracket

def Matching.down (k : ℕ) (m : Matching) : Matching :=
  { m with stack := m.stack.map (OpenBracket.down k) }

/-- Whether a closer belongs to an open bracket does not depend on where that stands. -/
theorem read_down (k : ℕ) (n : ℤ) (m : Matching) (c : Char) (column : ℕ) :
    read (n + k) (m.down k) c column = (read n m c column).down k := by
  unfold read
  split_ifs with hop
  · rfl
  · cases opener? c with
    | none => rfl
    | some o =>
      cases hstack : m.stack with
      | nil => simp [Matching.down, hstack]
      | cons top below =>
        by_cases htop : top.bracket = o <;> simp [Matching.down, hstack, OpenBracket.down, htop]

theorem readLine_down (k : ℕ) (n : ℤ) (stack : List OpenBracket) (line : Text) :
    readLine (n + k) (stack.map (OpenBracket.down k)) line = (readLine n stack line).down k := by
  have key : ∀ (l : List (Char × ℕ)) (m : Matching),
      l.foldl (fun m p => read (n + k) m p.1 p.2) (m.down k) =
        (l.foldl (fun m p => read n m p.1 p.2) m).down k := by
    intro l
    induction l with
    | nil => intro m; rfl
    | cons p l ih =>
      intro m
      rw [List.foldl_cons, List.foldl_cons, read_down, ih]
  exact key _ { stack }

theorem map_down_strayFindings (k : ℕ) (n : ℤ) (line : Text) (m : Matching) :
    (strayFindings n line m).map (Finding.down k) = strayFindings (n + k) line (m.down k) := by
  rw [strayFindings, strayFindings, List.map_map]
  rfl

end Bracket

/-! ## The rules for lines -/

/-- What an analysis finds while it reads the lines of a text. -/
def lineFindings (t : Text) : List Finding :=
  (scanLines t.lines).findings.toList

/-- Apart from stray closers, a line has what its rules find. -/
theorem filter_not_isOf_readLine (s : ScanState) (n : ℤ) (line : Text) :
    (s.readLine n line).2.filter (!Finding.isOf .unmatchedBracket ·) = Line.findings n line := by
  rw [ScanState.readLine, List.filter_append, List.filter_eq_self.mpr, List.filter_eq_nil_iff.mpr,
    List.append_nil]
  · intro f hf
    simp [Bracket.isOf_of_mem_strayFindings hf]
  · intro f hf
    simp [Line.isOf_of_mem_findings (r := .unmatchedBracket) rfl hf]

theorem filter_not_isOf_foldl_read (lines : List (Text × ℕ)) (s : Scan) :
    (lines.foldl Scan.read s).findings.toList.filter (!Finding.isOf .unmatchedBracket ·) =
      s.findings.toList.filter (!Finding.isOf .unmatchedBracket ·) ++
        lines.flatMap fun l => Line.findings l.2 l.1 := by
  induction lines generalizing s with
  | nil => simp
  | cons l lines ih =>
    rw [List.foldl_cons, ih, Scan.read_findings, List.filter_append, filter_not_isOf_readLine,
      List.flatMap_cons, List.append_assoc]

theorem filter_not_isOf_lineFindings (t : Text) :
    (lineFindings t).filter (!Finding.isOf .unmatchedBracket ·) =
      (t.lines.zipIdx 1).flatMap fun l => Line.findings l.2 l.1 :=
  filter_not_isOf_foldl_read _ {}

/-- What the rules find on lines that are counted from further on. -/
theorem flatMap_findings_zipIdx_add (k n : ℕ) (lines : List Text) :
    (lines.zipIdx (k + n)).flatMap (fun l => Line.findings l.2 l.1) =
      ((lines.zipIdx n).flatMap fun l => Line.findings l.2 l.1).map (Finding.down k) := by
  rw [← List.map_snd_add_zipIdx_eq_zipIdx, List.flatMap_map, List.map_flatMap]
  refine List.flatMap_congr fun l _ => ?_
  rw [Line.map_down_findings]
  simp

/-! ## All findings of the lines -/

namespace Scan

/-- The scan `s'` has come as far as `s`, `k` lines further down, and had the findings `earlier` before. -/
structure Below (k : ℕ) (earlier : List Finding) (s s' : Scan) : Prop where
  brackets : s'.state.openBrackets = s.state.openBrackets.map (OpenBracket.down k)
  findings : s'.findings.toList = earlier ++ s.findings.toList.map (Finding.down k)

theorem Below.read {k : ℕ} {earlier : List Finding} {s s' : Scan} (h : Below k earlier s s') (line : Text)
    (n : ℕ) : Below k earlier (s.read (line, n)) (s'.read (line, n + k)) := by
  have hline : Bracket.readLine ((n : ℤ) + k) s'.state.openBrackets line =
      (Bracket.readLine n s.state.openBrackets line).down k := by
    rw [h.brackets, Bracket.readLine_down]
  refine ⟨congrArg Bracket.Matching.stack hline, ?_⟩
  rw [read_findings, read_findings, h.findings, List.map_append, List.append_assoc]
  congr 2
  simp only [ScanState.readLine, Int.natCast_add, hline, List.map_append, Line.map_down_findings,
    Bracket.map_down_strayFindings]

theorem below_foldl {k : ℕ} {earlier : List Finding} (lines : List Text) :
    ∀ (n : ℕ) (s s' : Scan), Below k earlier s s' →
      Below k earlier ((lines.zipIdx n).foldl read s) ((lines.zipIdx (n + k)).foldl read s') := by
  induction lines with
  | nil => intro n s s' h; exact h
  | cons line lines ih =>
    intro n s s' h
    rw [List.zipIdx_cons, List.zipIdx_cons, List.foldl_cons, List.foldl_cons, Nat.add_right_comm]
    exact ih (n + 1) _ _ (h.read line n)

end Scan

theorem scanLines_append (lines more : List Text) :
    scanLines (lines ++ more) = (more.zipIdx (1 + lines.length)).foldl Scan.read (scanLines lines) := by
  rw [scanLines, List.zipIdx_append, List.foldl_append, ← scanLines]

/-- **Scans of texts that are put together.** With a line feed between two texts, what the rules for lines
find is what they find in the first and, counted on from there, in the second. If the first text leaves no
bracket open, all findings of the lines are put together so. -/
theorem lineFindings_join (t u : Text) :
    (lineFindings (t ++ '\n' :: u)).filter (·.rule ≠ Rule.unmatchedBracket.name) =
      (lineFindings t).filter (·.rule ≠ Rule.unmatchedBracket.name) ++
        ((lineFindings u).filter (·.rule ≠ Rule.unmatchedBracket.name)).map
          (Finding.down t.lines.length) ∧
    ((scanLines t.lines).state.openBrackets = [] →
      lineFindings (t ++ '\n' :: u) =
        lineFindings t ++ (lineFindings u).map (Finding.down t.lines.length)) := by
  have hfilter : (fun f : Finding => decide (f.rule ≠ Rule.unmatchedBracket.name)) =
      (!Finding.isOf .unmatchedBracket ·) := by
    funext f
    rw [Finding.isOf, decide_not]
  refine ⟨?_, fun hopen => ?_⟩
  · rw [hfilter, filter_not_isOf_lineFindings, filter_not_isOf_lineFindings, filter_not_isOf_lineFindings,
      lines_join, List.zipIdx_append, List.flatMap_append, Nat.add_comm 1, flatMap_findings_zipIdx_add]
  · have hbelow : Scan.Below t.lines.length (lineFindings t) {} (scanLines t.lines) :=
      ⟨by rw [hopen]; rfl, by simp [lineFindings]⟩
    rw [lineFindings, lines_join, scanLines_append]
    exact (Scan.below_foldl u.lines 1 _ _ hbelow).findings

/-- The first text closes the bracket that it opens and ends in a carriage return; the second starts with
a closer that is stray. -/
theorem lineFindings_join_call :
    (scanLines (lines "f(\n 1)\r".toList)).state.openBrackets = [] ∧
      lineFindings "f(\n 1)\r\n) \nx = (".toList =
        lineFindings "f(\n 1)\r".toList ++ (lineFindings ") \nx = (".toList).map (Finding.down 2) := by
  have hclosed : (scanLines (lines "f(\n 1)\r".toList)).state.openBrackets = [] := by decide
  exact ⟨hclosed, (lineFindings_join "f(\n 1)\r".toList ") \nx = (".toList).2 hclosed⟩

end CodeSmell
