import CodeSmell.Proofs.LineEndings
import CodeSmell.Proofs.Scan.Places
import CodeSmell.Proofs.Scan.Sound

/-!
# Prose is not code

A text that reads as prose has no colon, none of the keywords among its words, and no characters beyond
letters, digits, blanks and some marks. The rules that ask for code then find nothing in it.

* `IsProse` : such texts; `isProse_of_readsAsProse`, and `IsProse.line` : their lines;
* `IsProse.assignedName?_eq_none`, `definedName?_eq_none`, `importedNames?_eq_none`,
  `isBareExcept_eq_false`, `isReturn_eq_false` : a line of prose is no statement;
* `codeRules` : the rules that look at statements;
* `prose_findings` : a text that is reported as prose has no finding of these rules, and its unmatched
  brackets are parentheses.
-/

namespace CodeSmell

open Text

/-! ## Lines of prose -/

/-- Characters of prose, no colon, and no keyword. -/
structure IsProse (t : Text) : Prop where
  chars : ∀ c ∈ t, isProseChar c = true
  noColon : ':' ∉ t
  noKeyword : ∀ w ∈ words t, w ∉ codeKeywords

theorem isProse_of_readsAsProse {t : Text} (h : readsAsProse t = true) : IsProse t := by
  simp only [readsAsProse, hasCodeToken, all_strip fun _ => isProseChar_of_isSpace, Bool.and_eq_true,
    Bool.not_eq_true', Bool.or_eq_false_iff, List.any_eq_false, List.all_eq_true] at h
  obtain ⟨⟨⟨hcolon, hkeyword⟩, -⟩, hchars⟩ := h
  refine ⟨hchars, fun hmem => ?_, fun w hw hmem => hkeyword w hw (List.contains_iff_mem.mpr hmem)⟩
  rw [List.contains_iff_mem.mpr hmem] at hcolon
  cases hcolon

namespace IsProse
variable {t : Text} (h : IsProse t)
include h

theorem line {line : Text} (hline : line ∈ t.lines) : IsProse line where
  chars c hc := h.chars c (mem_of_mem_lines hline hc).1
  noColon hc := h.noColon (mem_of_mem_lines hline hc).1
  noKeyword w hw := h.noKeyword w (words_lines t ▸ List.mem_flatMap.mpr ⟨line, hline, hw⟩)

theorem notMem {c : Char} (hc : isProseChar c = false) : c ∉ t := by
  intro hmem
  rw [h.chars c hmem] at hc
  cases hc

theorem words_ne_cons {keyword : Text} (hkeyword : keyword ∈ codeKeywords) (ws : List Text) :
    words t ≠ keyword :: ws := by
  intro hwords
  refine h.noKeyword keyword ?_ hkeyword
  rw [hwords]
  exact List.mem_cons_self

/-! ## No statements -/

theorem assignedName?_eq_none : Line.assignedName? t = none := by
  rw [Option.eq_none_iff_forall_ne_some]
  intro name hname
  obtain ⟨-, front, gap, rest, rfl, -⟩ := Line.assignedName?_eq_some_iff.mp hname
  exact h.notMem (c := '=') (by decide) (by simp)

/-- A keyword with a blank after it would be a word. -/
theorem definedName?_eq_none (keyword : Text) (hkeyword : keyword ∈ codeKeywords) (closers : List Char) :
    Line.definedName? keyword closers t = none := by
  have hwords : codeKeywords.all (fun w => !w.isEmpty && w.all isWord) = true := by decide +kernel
  have hword := List.all_eq_true.mp hwords keyword hkeyword
  simp only [Bool.and_eq_true, Bool.not_eq_true', List.isEmpty_eq_false_iff, List.all_eq_true] at hword
  rw [Option.eq_none_iff_forall_ne_some]
  intro name hname
  obtain ⟨ws, hws⟩ := Line.words_of_definedName? hword.1 hword.2 hname
  exact h.words_ne_cons hkeyword ws hws

theorem importedNames?_eq_none : Line.importedNames? t = none := by
  have hfrom : Line.fromImport? t = none := by
    rw [Option.eq_none_iff_forall_ne_some]
    intro clause hclause
    obtain ⟨ws, hws, -⟩ := Line.words_of_fromImport? hclause
    exact h.words_ne_cons (by decide) ws hws
  have hplain : Line.plainImport? t = none := by
    rw [Option.eq_none_iff_forall_ne_some]
    intro clause hclause
    obtain ⟨ws, hws, -⟩ := Line.words_of_plainImport? hclause
    exact h.words_ne_cons (by decide) ws hws
  rw [Line.importedNames?, hfrom, hplain]
  rfl

theorem isBareExcept_eq_false : Line.isBareExcept t = false := by
  rw [Bool.eq_false_iff]
  intro hbare
  unfold Line.isBareExcept at hbare
  cases hafter : after? "except".toList (Line.body t) with
  | none =>
    rw [hafter] at hbare
    cases hbare
  | some rest =>
    simp only [hafter] at hbare
    split at hbare
    · rename_i tail htail
      -- the colon stands behind the keyword and blanks
      have hrest : ':' ∈ rest := List.dropWhile_subset _ (by rw [htail]; exact List.mem_cons_self)
      have hbody : ':' ∈ Line.body t := by
        rw [eq_append_of_after? hafter]
        exact List.mem_append_right _ hrest
      exact h.noColon (List.dropWhile_subset _ hbody)
    · cases hbare

theorem isReturn_eq_false : isReturn (strip t) = false := by
  rw [Bool.eq_false_iff]
  intro hreturn
  have hfirst : firstWord (strip t) = "return".toList := of_decide_eq_true hreturn
  have hsplit : strip t = "return".toList ++ (strip t).dropWhile isWord := by
    rw [← hfirst, firstWord, List.takeWhile_append_dropWhile]
  have hwords : words t = "return".toList :: words ((strip t).dropWhile isWord) := by
    rw [← words_strip, ← words_run (by decide) (List.all_eq_true.mp (by decide))
      (startsInWord_dropWhile (fun _ hc => hc) (strip t)), ← hsplit]
  exact h.words_ne_cons (by decide) _ hwords

end IsProse

/-! ## Findings about prose -/

/-- The rules that look at statements. -/
def codeRules : List Rule :=
  [.bareExcept, .shadowedBuiltin, .duplicateImport, .unusedImport, .unusedVariable, .unreachableCode]

/-- What a rule for lines finds in a line of prose is of another rule. -/
theorem IsProse.rule_notMem {line : Text} (h : IsProse line) {rule : Text → Option Smell}
    (hrule : rule ∈ Line.rules) {m : Smell} (hm : rule line = some m) : m.rule ∉ codeRules := by
  have hother : ∀ {condition : Text → Bool} {m' : Smell}, Line.smellIf condition m' line = some m →
      m'.rule ∉ codeRules → m.rule ∉ codeRules := by
    intro condition m' hfound hm'
    rwa [Line.smellIf_eq_some hfound]
  simp only [Line.rules, List.mem_cons, List.not_mem_nil, or_false] at hrule
  rcases hrule with rfl | rfl | rfl | rfl | rfl | rfl | rfl | rfl | rfl | rfl | rfl
  iterate 3
    · exact hother hm (by decide)
  · simp [Line.smellIf, h.isBareExcept_eq_false] at hm
  iterate 4
    · exact hother hm (by simp [Smell.rule, codeRules])
  · simp only [h.assignedName?_eq_none] at hm
    cases hm
  · simp only [h.definedName?_eq_none "def".toList (by decide)] at hm
    cases hm
  · simp only [h.definedName?_eq_none "class".toList (by decide)] at hm
    cases hm

/-- The checks that look at statements find none in prose. -/
theorem IsProse.findings_eq_nil {t : Text} (h : IsProse t) {c : Check} (hc : c.rule ∈ codeRules) :
    c.findings t (scanLines t.lines).state = [] := by
  have hsound := sound_scanLines t.lines
  have hlog : (scanLines t.lines).state.importLines = [] := by
    rw [List.eq_nil_iff_forall_not_mem]
    intro l hl
    obtain ⟨hmem, himports⟩ := ((logsImports_scanLines t.lines).statement _).mp ⟨l, hl, rfl⟩
    rw [(h.line hmem).importedNames?_eq_none] at himports
    cases himports
  cases c
  case duplicateImports => rw [Check.findings, Check.findingsIn, hlog, List.filterMap_nil]
  case unusedImports =>
    have hnames : (scanLines t.lines).state.importedNames = [] := by
      rw [List.eq_nil_iff_forall_not_mem]
      intro name hname
      obtain ⟨-, l, hl, -⟩ := hsound.names name hname
      rw [hlog] at hl
      cases hl
    rw [Check.findings, Check.findingsIn, hnames, List.filter_nil, List.map_nil]
  case unreachableCode =>
    rw [Check.findings, Check.findingsIn, unreachableLines_eq_nil fun line hline => (h.line hline).isReturn_eq_false,
      List.map_nil]
  case unusedVariables =>
    have hassigned : (scanLines t.lines).state.assigned = [] := by
      rw [List.eq_nil_iff_forall_not_mem]
      rintro ⟨name, n⟩ hmem
      obtain ⟨i, hi, -⟩ := (recordsFirst_scanLines t.lines name n).mp hmem
      obtain ⟨line, hline, hname⟩ := assignedName?_of_firstAssignment? hi
      rw [(h.line (List.mem_of_getElem? hline)).assignedName?_eq_none] at hname
      cases hname
    rw [Check.findings, Check.findingsIn, hassigned]
    rfl
  all_goals exact absurd hc (by decide)

theorem eq_paren_of_isOpener {c : Char} (hc : isProseChar c = true) (h : Bracket.isOpener c = true) :
    c = '(' := by
  simp only [Bracket.isOpener, Bool.or_eq_true, beq_iff_eq] at h
  rcases h with (rfl | rfl) | rfl
  · rfl
  · exact absurd hc (by decide)
  · exact absurd hc (by decide)

theorem eq_paren_of_opener? {c : Char} (hc : isProseChar c = true)
    (h : (Bracket.opener? c).isSome = true) : c = ')' := by
  unfold Bracket.opener? at h
  split at h
  · rfl
  · exact absurd hc (by decide)
  · exact absurd hc (by decide)
  · cases h

theorem readsAsProse_of_reported {t : Text} (h : ∃ f ∈ analyze t, f.rule = Rule.plainText.name) :
    readsAsProse t = true := by
  obtain ⟨f, hf, hrule⟩ := h
  have hmem : f ∈ (analyze t).filter (Finding.isOf Check.plainText.rule) :=
    List.mem_filter.mpr ⟨hf, decide_eq_true hrule⟩
  rw [filter_isOf_rule (by decide), Check.findings, Check.findingsIn] at hmem
  split_ifs at hmem with hprose
  · exact hprose
  · cases hmem

/-- **Prose has no findings about code.** A text that is reported as prose has no finding of the rules that
look at statements, and all its unmatched brackets are parentheses. -/
theorem prose_findings (t : Text) (h : ∃ f ∈ analyze t, f.rule = Rule.plainText.name) :
    (∀ f ∈ analyze t, ∀ r ∈ codeRules, f.rule ≠ r.name) ∧
    ∀ f ∈ analyze t, f.rule = Rule.unmatchedBracket.name →
      f.message = (Smell.strayCloser ')').message ∨ f.message = (Smell.unclosedOpener '(').message := by
  have hprose := isProse_of_readsAsProse (readsAsProse_of_reported h)
  refine ⟨fun f hf r hr hname => ?_, fun f hf hname => ?_⟩
  all_goals
    rw [analyze_eq, List.mem_append] at hf
    rcases hf with hf | hf
  · obtain ⟨i, line, hline, m, rfl, hm⟩ := mem_findings_scanLines hf
    obtain rfl : m.rule = r := Rule.name_injective hname
    rcases hm with ⟨rule, hrule, hm⟩ | ⟨c, -, -, rfl⟩
    · exact (hprose.line (List.mem_of_getElem? hline)).rule_notMem hrule hm hr
    · exact absurd (show Rule.unmatchedBracket ∈ codeRules from hr) (by decide)
  · obtain ⟨c, -, hc⟩ := List.mem_flatMap.mp hf
    obtain ⟨m, hm, line, snippet, rfl⟩ := Check.mem_findings hc
    obtain rfl : m.rule = r := Rule.name_injective hname
    rw [hprose.findings_eq_nil (hm ▸ hr)] at hc
    cases hc
  · obtain ⟨i, line, hline, m, rfl, ⟨rule, hrule, hm⟩ | ⟨c, hc, hcloser, rfl⟩⟩ :=
      mem_findings_scanLines hf
    · have hrule := Line.rule_of_mem_rules hrule hm
      rw [show m.rule = .unmatchedBracket from Rule.name_injective hname] at hrule
      cases hrule
    · have hchar := (hprose.line (List.mem_of_getElem? hline)).chars c hc
      rw [eq_paren_of_opener? hchar hcloser]
      exact Or.inl rfl
  · obtain ⟨c, -, hc⟩ := List.mem_flatMap.mp hf
    have hrule : Check.rule c = .unmatchedBracket := by
      obtain ⟨m, hm, line, snippet, rfl⟩ := Check.mem_findings hc
      exact hm ▸ Rule.name_injective hname
    obtain rfl : c = .unclosedBrackets := by
      revert hrule
      cases c <;> decide
    obtain ⟨b, hb, rfl⟩ := List.mem_map.mp hc
    obtain ⟨i, j, line, hline, hj, -⟩ := Bracket.mem_openBrackets_scanLines hb
    have hchar := (hprose.line (List.mem_of_getElem? hline)).chars _ (List.mem_of_getElem? hj)
    have hopener := ((sound_scanLines t.lines).openers b hb).1
    rw [eq_paren_of_isOpener hchar hopener]
    exact Or.inr rfl

/-- A sentence with a parenthesis too many on either side. -/
theorem prose_findings_parentheses :
    (∃ f ∈ analyze "one) two (three\n".toList, f.rule = Rule.plainText.name) ∧
      (∃ f ∈ analyze "one) two (three\n".toList, f.rule = Rule.unmatchedBracket.name) ∧
      (∀ f ∈ analyze "one) two (three\n".toList, ∀ r ∈ codeRules, f.rule ≠ r.name) ∧
      ∀ f ∈ analyze "one) two (three\n".toList, f.rule = Rule.unmatchedBracket.name →
        f.message = (Smell.strayCloser ')').message ∨
          f.message = (Smell.unclosedOpener '(').message := by
  have hprose : ∃ f ∈ analyze "one) two (three\n".toList, f.rule = Rule.plainText.name := by
    decide +kernel
  exact ⟨hprose, by decide +kernel, prose_findings "one) two (three\n".toList hprose⟩

end CodeSmell
