import CodeSmell.Proofs.Brackets.Scan
import CodeSmell.Proofs.Scan.Checks

/-!
# The order and the places of findings

* `Bracket.stray_readLine_sublist` : the stray closers of a line, in the order in which they stand there;
* `FollowsTable n line found` : what is found on one line, the rules in the order of their table and then
  the stray closers;
* `LinePart lines found` : findings about single lines, each on its line, in the order of the lines;
* `linePart_scanLines` : what a scan finds is such a part, and `mem_findings_scanLines` : each finding is of
  a rule for lines or about a stray closer;
* `CheckPart lines c found` : findings of the check `c`, with lines and snippets of the text;
* `checkPart_findings` : what a check finds after a scan is such a part;
* `analyze_parts` : an analysis is the part of the lines and then one part for each check, and its rules
  have one severity each.
-/

namespace CodeSmell

/-! ## One line -/

namespace Line

/-- What the rules find on a line, each with the place of its rule in the table. -/
def hits (line : Text) : List (ℕ × Smell) :=
  rules.zipIdx.filterMap fun p => (p.1 line).map (p.2, ·)

theorem mem_hits {line : Text} {p : ℕ × Smell} :
    p ∈ hits line ↔ ∃ rule, rules[p.1]? = some rule ∧ rule line = some p.2 := by
  simp only [hits, List.mem_filterMap, Prod.exists, List.mk_mem_zipIdx_iff_getElem?,
    Option.map_eq_some_iff]
  constructor
  · rintro ⟨rule, i, hrule, m, hm, rfl⟩
    exact ⟨rule, hrule, hm⟩
  · rintro ⟨rule, hrule, hm⟩
    exact ⟨rule, p.1, hrule, p.2, hm, rfl⟩

theorem pairwise_hits (line : Text) : (hits line).Pairwise fun p q => p.1 < q.1 := by
  refine List.Pairwise.filterMap _ ?_ (pairwise_snd_zipIdx rules 0)
  intro p q hpq a ha b hb
  obtain ⟨m, -, rfl⟩ := Option.map_eq_some_iff.mp ha
  obtain ⟨m', -, rfl⟩ := Option.map_eq_some_iff.mp hb
  exact hpq

theorem findings_eq_hits (n : Int) (line : Text) :
    findings n line = (hits line).map fun p => p.2.onLine n line := by
  have hrules : rules.filterMap (· line) = (hits line).map (·.2) := by
    conv_lhs => rw [← List.zipIdx_map_fst 0 rules, List.filterMap_map]
    rw [hits, List.map_filterMap]
    simp only [Option.map_map, Function.comp_def, Option.map_id']
  rw [findings, hrules, List.map_map]
  rfl

end Line

namespace Bracket

theorem stray_read (n : Int) (m : Matching) (c : Char) (column : Nat) :
    (read n m c column).stray = m.stray ∨
      (read n m c column).stray = c :: m.stray ∧ (opener? c).isSome = true := by
  unfold read
  split_ifs
  · exact Or.inl rfl
  · split
    · exact Or.inl rfl
    · rename_i o ho
      have hcloser : (opener? c).isSome = true := by rw [ho]; rfl
      split
      · exact Or.inr ⟨rfl, hcloser⟩
      · split_ifs
        · exact Or.inl rfl
        · exact Or.inr ⟨rfl, hcloser⟩

theorem stray_foldl_read_sublist (n : Int) (l : List (Char × Nat)) (m : Matching) :
    (l.foldl (fun m p => read n m p.1 p.2) m).stray.reverse.Sublist
      (m.stray.reverse ++ (l.map (·.1)).filter fun c => (opener? c).isSome) := by
  induction l generalizing m with
  | nil => simp
  | cons p l ih =>
    refine (ih (read n m p.1 p.2)).trans ?_
    rw [List.map_cons, List.filter_cons]
    rcases stray_read n m p.1 p.2 with hsame | ⟨hcons, hcloser⟩
    · rw [hsame]
      refine (List.Sublist.refl _).append ?_
      split_ifs
      · exact List.sublist_cons_self _ _
      · exact List.Sublist.refl _
    · rw [hcons, if_pos hcloser, List.reverse_cons, List.append_assoc, List.singleton_append]

/-- The stray closers of a line are some of its closers, in their order. -/
theorem stray_readLine_sublist (n : Int) (stack : List OpenBracket) (line : Text) :
    (readLine n stack line).stray.reverse.Sublist (line.filter fun c => (opener? c).isSome) := by
  have hline := stray_foldl_read_sublist n (line.zipIdx 1) { stack }
  rwa [List.zipIdx_map_fst] at hline

end Bracket

/-- What is found on the line `line` with the number `n`: one finding for each rule that has found
something, in the order of the table of rules, and then findings about stray closers of the line. -/
def FollowsTable (n : ℕ) (line : Text) (found : List Finding) : Prop :=
  ∃ (hits : List (ℕ × Smell)) (stray : List Char),
    found = hits.map (fun p => p.2.onLine n line) ++
      stray.map (fun c => (Smell.strayCloser c).onLine n line) ∧
    hits.Pairwise (fun p q => p.1 < q.1) ∧
    (∀ p, p ∈ hits ↔ ∃ rule, Line.rules[p.1]? = some rule ∧ rule line = some p.2) ∧
    stray.Sublist (line.filter fun c => (Bracket.opener? c).isSome)

theorem followsTable_readLine (s : ScanState) (n : ℕ) (line : Text) :
    FollowsTable n line (s.readLine n line).2 := by
  refine ⟨Line.hits line, (Bracket.readLine n s.openBrackets line).stray.reverse, ?_,
    Line.pairwise_hits line, fun p => Line.mem_hits, Bracket.stray_readLine_sublist n _ line⟩
  rw [← Line.findings_eq_hits]
  rfl

theorem FollowsTable.exists_smell {n : ℕ} {line : Text} {found : List Finding}
    (h : FollowsTable n line found) {f : Finding} (hf : f ∈ found) :
    ∃ m : Smell, f = m.onLine n line := by
  obtain ⟨hits, stray, rfl, -⟩ := h
  rcases List.mem_append.mp hf with hf | hf
  · obtain ⟨p, -, rfl⟩ := List.mem_map.mp hf
    exact ⟨p.2, rfl⟩
  · obtain ⟨c, -, rfl⟩ := List.mem_map.mp hf
    exact ⟨.strayCloser c, rfl⟩

theorem FollowsTable.eq_of_mem {n : ℕ} {line : Text} {found : List Finding}
    (h : FollowsTable n line found) {f : Finding} (hf : f ∈ found) :
    f.line = some (n : ℤ) ∧ f.snippet = some line := by
  obtain ⟨m, rfl⟩ := h.exists_smell hf
  exact ⟨rfl, rfl⟩

/-! ## The part of the lines -/

/-- The finding stands on a line and shows that line. -/
def Finding.OnLineOf (lines : List Text) (f : Finding) : Prop :=
  ∃ i line, lines[i]? = some line ∧ f.line = some ((i + 1 : ℕ) : ℤ) ∧ f.snippet = some line

/-- Findings about single lines. -/
structure LinePart (lines : List Text) (found : List Finding) : Prop where
  onLine : ∀ f ∈ found, f.OnLineOf lines
  inOrder : found.Pairwise fun f g => ∀ m ∈ f.line, ∀ n ∈ g.line, m ≤ n
  byTable : ∀ i line, lines[i]? = some line →
    FollowsTable (i + 1) line (found.filter (·.line = some ((i + 1 : ℕ) : ℤ)))

/-- What is found on one more line comes after all else. -/
theorem LinePart.concat {lines : List Text} {found new : List Finding} {line : Text}
    (h : LinePart lines found) (hnew : FollowsTable (lines.length + 1) line new) :
    LinePart (lines ++ [line]) (found ++ new) := by
  have hbefore : ∀ f ∈ found, ∃ i < lines.length, f.line = some ((i + 1 : ℕ) : ℤ) := by
    intro f hf
    obtain ⟨i, l, hl, hline, -⟩ := h.onLine f hf
    exact ⟨i, (List.getElem?_eq_some_iff.mp hl).1, hline⟩
  refine ⟨fun f hf => ?_, List.pairwise_append.mpr ⟨h.inOrder, ?_, ?_⟩, fun i l hl => ?_⟩
  · rcases List.mem_append.mp hf with hf | hf
    · obtain ⟨i, l, hl, hf⟩ := h.onLine f hf
      have hi := (List.getElem?_eq_some_iff.mp hl).1
      exact ⟨i, l, by rw [List.getElem?_append_left hi, hl], hf⟩
    · exact ⟨lines.length, line, List.getElem?_concat_length, hnew.eq_of_mem hf⟩
  · -- all that is new stands on the same line
    refine List.pairwise_of_forall_mem_list fun f hf g hg m hm n hn => ?_
    rw [(hnew.eq_of_mem hf).1, Option.mem_some] at hm
    rw [(hnew.eq_of_mem hg).1, Option.mem_some] at hn
    omega
  · intro f hf g hg m hm n hn
    obtain ⟨i, hi, hline⟩ := hbefore f hf
    rw [hline, Option.mem_some] at hm
    rw [(hnew.eq_of_mem hg).1, Option.mem_some] at hn
    omega
  · rw [List.filter_append]
    by_cases hi : i < lines.length
    · have hnone : new.filter (·.line = some ((i + 1 : ℕ) : ℤ)) = [] := by
        rw [List.filter_eq_nil_iff]
        intro f hf
        simp only [(hnew.eq_of_mem hf).1, decide_eq_true_eq, Option.some.injEq]
        omega
      rw [List.getElem?_append_left hi] at hl
      rw [hnone, List.append_nil]
      exact h.byTable i l hl
    · obtain rfl : i = lines.length := by
        have := (List.getElem?_eq_some_iff.mp hl).1
        rw [List.length_append, List.length_singleton] at this
        omega
      have hnone : found.filter (·.line = some ((lines.length + 1 : ℕ) : ℤ)) = [] := by
        rw [List.filter_eq_nil_iff]
        intro f hf
        obtain ⟨j, hj, hline⟩ := hbefore f hf
        simp only [hline, decide_eq_true_eq, Option.some.injEq]
        omega
      have hall : new.filter (·.line = some ((lines.length + 1 : ℕ) : ℤ)) = new := by
        rw [List.filter_eq_self]
        intro f hf
        simpa using (hnew.eq_of_mem hf).1
      rw [List.getElem?_concat_length, Option.some.injEq] at hl
      rw [hnone, hall, List.nil_append, ← hl]
      exact hnew

theorem LinePart.exists_smell {lines : List Text} {found : List Finding} (h : LinePart lines found)
    {f : Finding} (hf : f ∈ found) : ∃ m : Smell, ∃ line snippet, f = m.finding line snippet := by
  obtain ⟨i, line, hline, hf', -⟩ := h.onLine f hf
  obtain ⟨m, hm⟩ := (h.byTable i line hline).exists_smell
    (List.mem_filter.mpr ⟨hf, decide_eq_true hf'⟩)
  exact ⟨m, _, _, hm⟩

theorem linePart_scanLines (lines : List Text) :
    LinePart lines (scanLines lines).findings.toList := by
  induction lines using List.reverseRecOn with
  | nil => exact ⟨by simp [scanLines], by simp [scanLines], by simp⟩
  | append_singleton lines line ih =>
    rw [scanLines_concat, Scan.read_findings]
    exact ih.concat (followsTable_readLine _ _ _)

/-- All that a scan finds: smells that the rules for lines see on a line, and closers of a line that are
stray. -/
theorem mem_findings_scanLines {lines : List Text} {f : Finding}
    (hf : f ∈ (scanLines lines).findings.toList) :
    ∃ i line, lines[i]? = some line ∧ ∃ m : Smell, f = m.onLine (i + 1 : ℕ) line ∧
      ((∃ rule ∈ Line.rules, rule line = some m) ∨
        ∃ c ∈ line, (Bracket.opener? c).isSome = true ∧ m = .strayCloser c) := by
  have hpart := linePart_scanLines lines
  obtain ⟨i, line, hline, hfline, -⟩ := hpart.onLine f hf
  obtain ⟨hits, stray, hfound, -, hhits, hstray⟩ := hpart.byTable i line hline
  have hmem : f ∈ (scanLines lines).findings.toList.filter (·.line = some ((i + 1 : ℕ) : ℤ)) :=
    List.mem_filter.mpr ⟨hf, decide_eq_true hfline⟩
  rw [hfound, List.mem_append] at hmem
  refine ⟨i, line, hline, ?_⟩
  rcases hmem with hmem | hmem
  · obtain ⟨p, hp, rfl⟩ := List.mem_map.mp hmem
    obtain ⟨rule, hrule, hsmell⟩ := (hhits p).mp hp
    exact ⟨p.2, rfl, Or.inl ⟨rule, List.mem_of_getElem? hrule, hsmell⟩⟩
  · obtain ⟨c, hc, rfl⟩ := List.mem_map.mp hmem
    obtain ⟨hcline, hcloser⟩ := List.mem_filter.mp (hstray.subset hc)
    exact ⟨.strayCloser c, rfl, Or.inr ⟨c, hcline, hcloser, rfl⟩⟩

/-! ## The parts of the checks -/

/-- Findings of the check `c`. A finding with a line shows that line, unless it is about an opening
bracket; one without a line shows nothing, unless it is about plain text. -/
structure CheckPart (lines : List Text) (c : Check) (found : List Finding) : Prop where
  ofRule : ∀ f ∈ found, f.rule = c.rule.name
  onLine : ∀ f ∈ found, ∀ n ∈ f.line, ∃ i line, lines[i]? = some line ∧ n = ((i + 1 : ℕ) : ℤ) ∧
    f.snippet = if c = .unclosedBrackets then none else some line
  inFile : ∀ f ∈ found, f.line = none → f.snippet = none ∨ f.rule = Rule.plainText.name

namespace CheckPart
variable {lines : List Text} {c : Check} {found : List Finding}
  (hrule : ∀ f ∈ found, f.rule = c.rule.name)
include hrule

theorem of_inFile (h : ∀ f ∈ found, f.line = none ∧ f.snippet = none) : CheckPart lines c found := by
  refine ⟨hrule, fun f hf n hn => ?_, fun f hf _ => Or.inl (h f hf).2⟩
  rw [(h f hf).1] at hn
  cases hn

theorem of_onLine (hc : c ≠ .unclosedBrackets) (h : ∀ f ∈ found, f.OnLineOf lines) :
    CheckPart lines c found := by
  refine ⟨hrule, fun f hf n hn => ?_, fun f hf hnone => ?_⟩
  · obtain ⟨i, line, hline, hf, hsnippet⟩ := h f hf
    rw [hf, Option.mem_some] at hn
    exact ⟨i, line, hline, hn.symm, by rw [if_neg hc, hsnippet]⟩
  · obtain ⟨i, line, -, hf, -⟩ := h f hf
    rw [hnone] at hf
    cases hf

end CheckPart

/-- What a check finds after the scan of a text is placed in that text. -/
theorem checkPart_findings (t : Text) (c : Check) :
    CheckPart t.lines c (c.findings t (scanLines t.lines).state) := by
  have hrule : ∀ f ∈ c.findings t (scanLines t.lines).state, f.rule = c.rule.name := by
    intro f hf
    obtain ⟨m, hm, line, snippet, rfl⟩ := Check.mem_findings hf
    rw [← hm]
    rfl
  cases c
  case duplicateImports =>
    refine .of_onLine hrule (by decide) fun f hf => ?_
    obtain ⟨l, hl, hlf⟩ := List.mem_filterMap.mp hf
    split at hlf
    · rename_i first second rest hnumbers
      cases hlf
      have hfirst : first ∈ l.lineNumbers := by rw [hnumbers]; exact List.mem_cons_self
      rw [(logsImports_scanLines t.lines).numbers l hl] at hfirst
      obtain ⟨n, hn, rfl⟩ := List.mem_map.mp hfirst
      obtain ⟨i, rfl, hi⟩ := mem_numbersOf.mp hn
      exact ⟨i, l.statement, hi, rfl, rfl⟩
    · cases hlf
  case unusedImports =>
    refine .of_inFile hrule fun f hf => ?_
    obtain ⟨name, -, rfl⟩ := List.mem_map.mp hf
    exact ⟨rfl, rfl⟩
  case unclosedBrackets =>
    refine ⟨hrule, fun f hf n hn => ?_, fun f hf hnone => ?_⟩
    · obtain ⟨b, hb, rfl⟩ := List.mem_map.mp hf
      obtain ⟨i, -, line, hline, -, hb, -⟩ := Bracket.mem_openBrackets_scanLines hb
      exact ⟨i, line, hline, (Option.mem_some.mp hn).symm.trans hb, rfl⟩
    · obtain ⟨b, -, rfl⟩ := List.mem_map.mp hf
      cases hnone
  case unreachableCode =>
    refine .of_onLine hrule (by decide) fun f hf => ?_
    obtain ⟨⟨line, n⟩, hl, rfl⟩ := List.mem_map.mp hf
    obtain ⟨i, rfl, hi, -⟩ := mem_unreachableLines hl
    exact ⟨i, line, hi, rfl, rfl⟩
  case plainText =>
    refine ⟨hrule, fun f hf n hn => ?_, fun f hf _ => Or.inr (hrule f hf)⟩
    simp only [Check.findings, Check.findingsIn] at hf
    split_ifs at hf
    · rw [List.mem_singleton.mp hf] at hn
      cases hn
    · cases hf
  case unusedVariables =>
    refine .of_onLine hrule (by decide) fun f hf => ?_
    rw [Check.findings, Check.findingsIn, unusedVariables_scanLines] at hf
    obtain ⟨a, ha, rfl⟩ := List.mem_map.mp hf
    obtain ⟨i, line, hn, hline⟩ := assignedWithin_scanLines t.lines a (List.mem_filter.mp ha).1
    exact ⟨i, line, hline, by simp [variableFinding, Smell.finding, hn],
      by simp [variableFinding, Smell.finding, hn, hline]⟩
  all_goals
    refine .of_inFile hrule fun f hf => ?_
    simp only [Check.findings, Check.findingsIn] at hf
    split_ifs at hf
    · rw [List.mem_singleton.mp hf]
      exact ⟨rfl, rfl⟩
    · cases hf

/-! ## The whole analysis -/

theorem severity_eq_of_rule_eq {m m' : Smell} {line line' : Option Int} {snippet snippet' : Option Text}
    (h : (m.finding line snippet).rule = (m'.finding line' snippet').rule) :
    (m.finding line snippet).severity = (m'.finding line' snippet').severity := by
  have hrule : m.rule = m'.rule := Rule.name_injective h
  rw [Smell.finding, Smell.finding, hrule]

/-- **The findings of a text are in order and in place.** First come those about lines, then those of the
checks, and each rule has one severity. -/
theorem analyze_parts (t : Text) :
    ∃ (L : List Finding) (A : Check → List Finding), analyze t = L ++ Check.all.flatMap A ∧
      LinePart t.lines L ∧ (∀ c, CheckPart t.lines c (A c)) ∧
      ∀ f ∈ analyze t, ∀ g ∈ analyze t, f.rule = g.rule → f.severity = g.severity := by
  have hlines := linePart_scanLines t.lines
  have hsmell : ∀ f ∈ analyze t, ∃ m : Smell, ∃ line snippet, f = m.finding line snippet := by
    intro f hf
    rw [analyze_eq, List.mem_append] at hf
    rcases hf with hf | hf
    · exact hlines.exists_smell hf
    · obtain ⟨c, -, hc⟩ := List.mem_flatMap.mp hf
      obtain ⟨m, -, hm⟩ := Check.mem_findings hc
      exact ⟨m, hm⟩
  refine ⟨_, _, analyze_eq t, hlines, checkPart_findings t, fun f hf g hg h => ?_⟩
  obtain ⟨m, line, snippet, rfl⟩ := hsmell f hf
  obtain ⟨m', line', snippet', rfl⟩ := hsmell g hg
  exact severity_eq_of_rule_eq h

end CodeSmell
