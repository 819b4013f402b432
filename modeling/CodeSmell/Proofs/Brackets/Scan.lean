import CodeSmell.Proofs.Brackets.Account
import CodeSmell.Proofs.Scan.Analysis
import CodeSmell.Proofs.Text.Lines

/-!
# The account that a scan keeps

* `Spot` : the tag that a scan needs, a line with its number and a column;
* `Agrees` : a matching within a line agrees with an account, and `Agrees.read` keeps it so;
* `mem_openBrackets_scanLines` : an open bracket stands at the line and column that a scan keeps of it;
* `scan_account` : after any lines, the open brackets and the bracket findings of a scan are those of
  the account of their characters;
* `filter_spots_lines` : the brackets of the lines of a text are the brackets of the text, each at the
  spot of its position;
* `bracketFindings_analyze` : the bracket findings of a text are those of the account of its positions,
  the stray closers in text order and then the open brackets from the last one back.
-/

namespace CodeSmell.Bracket

open Text

/-! ## Spots -/

/-- Where a character stands: the number of its line, its column, and the line. -/
structure Spot where
  line : Int
  column : Nat
  text : Text

/-- What the stack of a scan holds of an opening bracket. -/
def openBracket (p : Char × Spot) : OpenBracket :=
  ⟨p.1, p.2.line, p.2.column⟩

def strayFinding (p : Char × Spot) : Finding :=
  (Smell.strayCloser p.1).onLine p.2.line p.2.text

def unclosedFinding (p : Char × Spot) : Finding :=
  (Smell.unclosedOpener p.1).finding (some p.2.line) none

theorem unclosed_map_openBracket (w : List (Char × Spot)) :
    unclosed (w.map openBracket) = w.map unclosedFinding := by
  rw [unclosed, List.map_map]
  rfl

def lineSpots (n : Int) (line : Text) : List (Char × Spot) :=
  (line.zipIdx 1).map fun p => (p.1, ⟨n, p.2, line⟩)

/-- The characters of lines that are numbered from `n` on, with their spots. -/
def spots (n : Nat) (lines : List Text) : List (Char × Spot) :=
  (lines.zipIdx n).flatMap fun l => lineSpots l.2 l.1

theorem spots_cons (n : Nat) (line : Text) (lines : List Text) :
    spots n (line :: lines) = lineSpots n line ++ spots (n + 1) lines := by
  rw [spots, List.zipIdx_cons, List.flatMap_cons, ← spots]

theorem mem_spots {lines : List Text} {p : Char × Spot} (h : p ∈ spots 1 lines) :
    ∃ i j text, lines[i]? = some text ∧ text[j]? = some p.1 ∧ p.2 = ⟨(i + 1 : ℕ), j + 1, text⟩ := by
  obtain ⟨⟨line, n⟩, hline, hp⟩ := List.mem_flatMap.mp h
  obtain ⟨⟨c, k⟩, hc, rfl⟩ := List.mem_map.mp hp
  obtain ⟨hn, hline⟩ := List.mk_mem_zipIdx_iff_le_and_getElem?_sub.mp hline
  obtain ⟨hk, hc⟩ := List.mk_mem_zipIdx_iff_le_and_getElem?_sub.mp hc
  refine ⟨n - 1, k - 1, line, hline, hc, ?_⟩
  rw [Nat.sub_add_cancel hn, Nat.sub_add_cancel hk]

/-! ## One line -/

/-- The matching `m` within the line `line` agrees with the account `a`, in which `earlier` are the
stray closers of the lines before. -/
structure Agrees (n : Int) (line : Text) (earlier : List (Char × Spot)) (m : Matching)
    (a : Account Spot) : Prop where
  stack : m.stack = a.opened.map openBracket
  stray : a.stray.map strayFinding =
    m.stray.map (fun c => (Smell.strayCloser c).onLine n line) ++ earlier.map strayFinding

theorem Agrees.read {n : Int} {line : Text} {earlier : List (Char × Spot)} {m : Matching}
    {a : Account Spot} (h : Agrees n line earlier m a) (c : Char) (column : Nat) :
    Agrees n line earlier (Bracket.read n m c column) (a.read (c, ⟨n, column, line⟩)) := by
  obtain ⟨hstack, hstray⟩ := h
  -- a closer that strays is the same finding on both sides
  have hstrays : Agrees n line earlier { m with stray := c :: m.stray }
      { a with stray := (c, ⟨n, column, line⟩) :: a.stray } :=
    ⟨hstack, by rw [List.map_cons, List.map_cons, List.cons_append, hstray]; rfl⟩
  unfold Bracket.read Account.read
  simp only
  split_ifs with hop
  · exact ⟨by rw [List.map_cons, hstack]; rfl, hstray⟩
  · cases hc : opener? c with
    | none => exact ⟨hstack, hstray⟩
    | some o =>
      cases ha : a.opened with
      | nil =>
        rw [ha, List.map_nil] at hstack
        simp only [hstack]
        rwa [hstack, ha] at hstrays
      | cons top below =>
        rw [ha, List.map_cons] at hstack
        have htop : (openBracket top).bracket = top.1 := rfl
        simp only [hstack, htop]
        split_ifs with ho
        · exact ⟨rfl, hstray⟩
        · rwa [hstack, ha] at hstrays

theorem agrees_readLine (n : Int) (line : Text) (a : Account Spot) :
    Agrees n line a.stray (readLine n (a.opened.map openBracket) line)
      ((lineSpots n line).foldl Account.read a) := by
  have key : ∀ (l : List (Char × Nat)) (m : Matching) (b : Account Spot),
      Agrees n line a.stray m b →
      Agrees n line a.stray (l.foldl (fun m p => Bracket.read n m p.1 p.2) m)
        ((l.map fun p => (p.1, (⟨n, p.2, line⟩ : Spot))).foldl Account.read b) := by
    intro l
    induction l with
    | nil => intro m b h; exact h
    | cons p l ih =>
      intro m b h
      exact ih _ _ (h.read p.1 p.2)
  exact key _ _ a ⟨rfl, rfl⟩

/-! ## All lines -/

theorem filter_isOf_lineFindings (n : Int) (line : Text) (m : Matching) :
    (Line.findings n line ++ strayFindings n line m).filter (Finding.isOf .unmatchedBracket) =
      strayFindings n line m := by
  have hline : (Line.findings n line).filter (Finding.isOf .unmatchedBracket) = [] := by
    refine List.filter_eq_nil_iff.mpr fun f hf => ?_
    simp [Line.isOf_of_mem_findings (r := .unmatchedBracket) rfl hf]
  have hstray : (strayFindings n line m).filter (Finding.isOf .unmatchedBracket) =
      strayFindings n line m :=
    List.filter_eq_self.mpr fun f hf => isOf_of_mem_strayFindings hf .unmatchedBracket
  rw [List.filter_append, hline, hstray, List.nil_append]

/-- The open brackets and the bracket findings of the scan `s` are those of the account `a`. -/
structure Keeps (s : Scan) (a : Account Spot) : Prop where
  opened : s.state.openBrackets = a.opened.map openBracket
  stray : s.findings.toList.filter (Finding.isOf .unmatchedBracket) =
    (a.stray.map strayFinding).reverse

theorem Keeps.read {s : Scan} {a : Account Spot} (h : Keeps s a) (line : Text) (n : Nat) :
    Keeps (s.read (line, n)) ((lineSpots n line).foldl Account.read a) := by
  have hline := agrees_readLine n line a
  rw [← h.opened] at hline
  refine ⟨hline.stack, ?_⟩
  rw [Scan.read_findings, List.filter_append, h.stray, ScanState.readLine, filter_isOf_lineFindings,
    hline.stray, List.reverse_append, strayFindings, List.map_reverse]

/-- What a line keeps, all lines keep. -/
theorem scan_account (lines : List Text) : ∀ (n : Nat) (s : Scan) (a : Account Spot), Keeps s a →
    Keeps ((lines.zipIdx n).foldl Scan.read s) ((spots n lines).foldl Account.read a) := by
  induction lines with
  | nil => intro n s a h; exact h
  | cons line lines ih =>
    intro n s a h
    rw [spots_cons, List.foldl_append, List.zipIdx_cons, List.foldl_cons]
    exact ih (n + 1) _ _ (h.read line n)

theorem keeps_scanLines (lines : List Text) : Keeps (scanLines lines) (account (spots 1 lines)) :=
  scan_account lines 1 {} {} ⟨rfl, rfl⟩

/-- An open bracket of a scan stands where the scan says. -/
theorem mem_openBrackets_scanLines {lines : List Text} {b : OpenBracket}
    (h : b ∈ (scanLines lines).state.openBrackets) :
    ∃ i j text, lines[i]? = some text ∧ text[j]? = some b.bracket ∧ b.line = (i + 1 : ℕ) ∧
      b.column = j + 1 := by
  rw [(keeps_scanLines lines).opened] at h
  obtain ⟨⟨c, spot⟩, hp, rfl⟩ := List.mem_map.mp h
  obtain ⟨i, j, line, hline, hc, hspot⟩ := mem_spots (mem_of_mem_opened hp).1
  obtain rfl : spot = ⟨(i + 1 : ℕ), j + 1, line⟩ := hspot
  exact ⟨i, j, line, hline, hc, rfl, rfl⟩

/-! ## Positions -/

def spotAt (t : Text) (i : Nat) : Spot :=
  ⟨lineNumber t i, columnAt t i, lineHolding t i⟩

/-- The spot `n` lines further down. -/
def Spot.down (n : Nat) (s : Spot) : Spot :=
  { s with line := s.line + n }

/-- The brackets of a part of a text that becomes one line. A carriage return that is left out of the
line is no bracket. -/
theorem filter_lineSpots (n : Nat) (p : Text) :
    (lineSpots n (dropFinal '\r' p)).filter (isBracket ·.1) =
      (p.zipIdx.map (Prod.map id fun i => (⟨n, i + 1, dropFinal '\r' p⟩ : Spot))).filter
        (isBracket ·.1) := by
  have hcut : (dropFinal '\r' p).zipIdx.filter (isBracket ·.1) = p.zipIdx.filter (isBracket ·.1) := by
    rcases dropFinal_append_or '\r' p with h | h
    · rw [← h]
    · conv_rhs => rw [h, List.zipIdx_append, List.filter_append]
      have hcr : ([('\r', 0 + (dropFinal '\r' p).length)]).filter
          (fun q : Char × Nat => isBracket q.1) = [] := rfl
      rw [List.zipIdx_singleton, hcr, List.append_nil]
  rw [lineSpots, List.zipIdx_succ, List.map_map, List.filter_map, List.filter_map]
  exact congrArg _ hcut

theorem filter_spots_lines (t : Text) (n : Nat) :
    (spots (n + 1) t.lines).filter (isBracket ·.1) =
      (t.zipIdx.map (Prod.map id fun i => (spotAt t i).down n)).filter (isBracket ·.1) := by
  induction t using parts_induction '\n' generalizing n with
  | last p hp =>
    rw [lines_of_notMem hp, spots_cons, spots, List.zipIdx_nil, List.flatMap_nil, List.append_nil,
      filter_lineSpots]
    congr 1
    refine List.map_congr_left fun q hq => ?_
    have hlt := List.snd_lt_of_mem_zipIdx hq
    simp only [Prod.map, spotAt, Spot.down, lineNumber_of_notMem hp, lineHolding_of_notMem hp,
      columnAt_of_notMem hp (show q.2 ≤ p.length by omega)]
    congr 2
    push_cast
    omega
  | step p t hp ih =>
    rw [lines_append hp, spots_cons, List.filter_append, ih (n + 1), filter_lineSpots,
      List.zipIdx_append, List.map_append, List.filter_append]
    congr 1
    · congr 1
      refine List.map_congr_left fun q hq => ?_
      have hlt := List.snd_lt_of_mem_zipIdx hq
      have hle : q.2 ≤ p.length := by omega
      simp only [Prod.map, spotAt, Spot.down, lineNumber_append_left hp hle,
        lineHolding_append_left hp hle, columnAt_append_left hp hle]
      congr 2
      push_cast
      omega
    · -- the line feed itself is no bracket, and behind it all positions are further on
      have hlf : ¬ isBracket '\n' = true := by decide
      rw [List.zipIdx_cons, List.map_cons, List.filter_cons_of_neg (by exact hlf), Nat.zero_add,
        ← Nat.add_zero (p.length + 1), ← List.map_snd_add_zipIdx_eq_zipIdx, List.map_map]
      congr 1
      refine List.map_congr_left fun q _ => ?_
      simp only [Function.comp_apply, Prod.map, id_eq, spotAt, Spot.down, Nat.add_comm q.2,
        lineNumber_append_right hp, lineHolding_append_right hp, columnAt_append_right]
      congr 2
      push_cast
      omega

theorem account_spots (t : Text) : account (spots 1 t.lines) = (account t.zipIdx).map (spotAt t) := by
  have h0 : (fun i => (spotAt t i).down 0) = spotAt t := by
    funext i
    simp [Spot.down]
  rw [← account_filter, filter_spots_lines t 0, account_filter, h0, account_map]

/-- **The bracket findings of a text**: the stray closers, and then what is still open. -/
theorem bracketFindings_analyze (t : Text) :
    (analyze t).filter (Finding.isOf .unmatchedBracket) =
      ((account t.zipIdx).stray.reverse.map fun p => strayFinding (p.1, spotAt t p.2)) ++
        (account t.zipIdx).opened.map fun p => unclosedFinding (p.1, spotAt t p.2) := by
  have hkeeps := keeps_scanLines t.lines
  have hchecks : Check.all.filter (·.rule = .unmatchedBracket) = [.unclosedBrackets] := by decide
  rw [filter_isOf_analyze, hchecks, List.flatMap_singleton, Check.findings, Check.findingsIn, hkeeps.stray, hkeeps.opened,
    unclosed_map_openBracket, account_spots, Account.map, List.map_map, List.map_map, ← List.map_reverse]
  rfl

end CodeSmell.Bracket
