import CodeSmell.Proofs.Line.Headers
import CodeSmell.Proofs.Scan.Join
import CodeSmell.Proofs.Scan.Places

/-!
# A rule and a line tell a finding

No rule for lines is reported twice on a line, though three of them share a name. So the name of such a rule
and the number of a line are a key for what these rules find in a text, and no other finding has that key.

* `ruleFindings t` : what the rules for lines find in the text `t`;
* `filter_isOfLine_analyze` : the findings of an analysis under the names of these rules are all of theirs;
* `exists_reported_iff` : an analysis reports such a rule when some line breaks it;
* `nodup_keys_ruleFindings` : their keys are different from each other;
* `lineRules_identify` : the rules of a line exclude each other, and a key belongs to one finding only.
-/

namespace CodeSmell

open Text

namespace Finding

/-- Whether the finding is reported under the name of a rule for lines. -/
def isOfLine (f : Finding) : Bool :=
  (Line.lineRules.map Rule.name).contains f.rule

theorem isOfLine_finding (m : Smell) (line : Option Int) (snippet : Option Text) :
    isOfLine (m.finding line snippet) = m.rule.ofLine := by
  have hmem : m.rule ∈ Line.lineRules ↔ m.rule.ofLine = true := by
    rw [Line.lineRules, List.mem_filter]
    exact and_iff_right (Rule.mem_all m.rule)
  rw [Bool.eq_iff_iff, isOfLine, List.contains_iff_mem, ← hmem]
  exact List.mem_map_of_injective Rule.name_injective

/-- The rule that a finding is reported under and the line where it stands. -/
def key (f : Finding) : Text × Option Int :=
  (f.rule, f.line)

end Finding

def ruleFindings (t : Text) : List Finding :=
  (t.lines.zipIdx 1).flatMap fun l => Line.findings l.2 l.1

theorem isOfLine_of_mem_ruleFindings {t : Text} {f : Finding} (hf : f ∈ ruleFindings t) :
    f.isOfLine = true := by
  obtain ⟨l, -, hl⟩ := List.mem_flatMap.mp hf
  obtain ⟨m, hm, rfl⟩ := Line.mem_findings hl
  rw [Smell.onLine, Finding.isOfLine_finding, hm]

/-- Stray closers and the findings of checks are reported under other names. -/
theorem filter_isOfLine_analyze (t : Text) : (analyze t).filter Finding.isOfLine = ruleFindings t := by
  have hchecks : (Check.all.flatMap fun c => c.findings t (scanLines t.lines).state).filter
      Finding.isOfLine = [] := by
    rw [List.filter_eq_nil_iff]
    intro f hf
    obtain ⟨c, -, hc⟩ := List.mem_flatMap.mp hf
    obtain ⟨m, hm, line, snippet, rfl⟩ := Check.mem_findings hc
    rw [Finding.isOfLine_finding, hm]
    cases c <;> decide
  have hlines : (scanLines t.lines).findings.toList.filter Finding.isOfLine =
      (lineFindings t).filter (!Finding.isOf .unmatchedBracket ·) := by
    refine List.filter_congr fun f hf => ?_
    obtain ⟨i, line, -, m, rfl, ⟨rule, hrule, hm⟩ | ⟨c, -, -, rfl⟩⟩ := mem_findings_scanLines hf
    · have hof := Line.rule_of_mem_rules hrule hm
      rw [Smell.onLine, Finding.isOfLine_finding, Finding.isOf_finding, hof]
      have hne : m.rule ≠ .unmatchedBracket := by
        intro he
        rw [he] at hof
        cases hof
      simp [hne]
    · rw [Smell.onLine, Finding.isOfLine_finding, Finding.isOf_finding]
      rfl
  rw [analyze_eq, List.filter_append, hchecks, List.append_nil, hlines, filter_not_isOf_lineFindings,
    ruleFindings]

/-- An analysis reports a rule for lines when some line breaks it. -/
theorem exists_reported_iff {t : Text} {r : Rule} (hr : r.ofLine = true) :
    (∃ f ∈ analyze t, f.rule = r.name) ↔ ∃ line ∈ t.lines, Line.breaks line r = true := by
  have hkeep : ∀ f : Finding, f.rule = r.name → f.isOfLine = true := by
    intro f hf
    rw [Finding.isOfLine, List.contains_iff_mem, hf, List.mem_map_of_injective Rule.name_injective,
      Line.lineRules, List.mem_filter]
    exact ⟨Rule.mem_all r, hr⟩
  constructor
  · rintro ⟨f, hf, hrule⟩
    have hmem : f ∈ ruleFindings t := by
      rw [← filter_isOfLine_analyze]
      exact List.mem_filter.mpr ⟨hf, hkeep f hrule⟩
    obtain ⟨l, hl, hfl⟩ := List.mem_flatMap.mp hmem
    exact ⟨l.1, List.fst_mem_of_mem_zipIdx hl, Line.exists_finding_iff.mp ⟨f, hfl, hrule⟩⟩
  · rintro ⟨line, hline, hbreaks⟩
    obtain ⟨i, hi⟩ := List.mem_iff_getElem?.mp hline
    have hnumbered : (line, i + 1) ∈ t.lines.zipIdx 1 :=
      List.mk_mem_zipIdx_iff_le_and_getElem?_sub.mpr ⟨by omega, hi⟩
    obtain ⟨f, hf, hrule⟩ := Line.exists_finding_iff.mpr hbreaks
    have hmem : f ∈ (analyze t).filter Finding.isOfLine := by
      rw [filter_isOfLine_analyze]
      exact List.mem_flatMap.mpr ⟨_, hnumbered, hf⟩
    exact ⟨f, (List.mem_filter.mp hmem).1, hrule⟩

/-- On one line the names are different, and findings of two lines have different numbers. -/
theorem nodup_keys_ruleFindings (t : Text) : ((ruleFindings t).map Finding.key).Nodup := by
  have hline : ∀ l : Text × ℕ, ((Line.findings l.2 l.1).map Finding.key).Nodup := by
    intro l
    apply List.Nodup.of_map Prod.fst
    rw [List.map_map]
    exact Line.nodup_map_rule_findings l.2 l.1
  have hnumber : ∀ (l : Text × ℕ), ∀ k ∈ (Line.findings l.2 l.1).map Finding.key, k.2 = some (l.2 : ℤ) := by
    intro l k hk
    obtain ⟨f, hf, rfl⟩ := List.mem_map.mp hk
    obtain ⟨m, -, rfl⟩ := Line.mem_findings hf
    rfl
  rw [ruleFindings, List.map_flatMap, List.nodup_flatMap]
  refine ⟨fun l _ => hline l, (pairwise_snd_zipIdx t.lines 1).imp fun {l l'} hlt k hk hk' => ?_⟩
  have hsame := (hnumber l k hk).symm.trans (hnumber l' k hk')
  rw [Option.some.injEq, Int.ofNat_inj] at hsame
  omega

theorem countP_key_analyze {t : Text} {f : Finding} (hf : f ∈ ruleFindings t) :
    (analyze t).countP (fun g => g.rule = f.rule ∧ g.line = f.line) = 1 := by
  have hkey : (fun g : Finding => decide (g.rule = f.rule ∧ g.line = f.line)) =
      fun g => (g.key == f.key) && g.isOfLine := by
    funext g
    have hof := isOfLine_of_mem_ruleFindings hf
    rw [Bool.eq_iff_iff, decide_eq_true_eq, Bool.and_eq_true, beq_iff_eq, Finding.key, Finding.key,
      Prod.mk.injEq]
    constructor
    · rintro ⟨hrule, hline⟩
      refine ⟨⟨hrule, hline⟩, ?_⟩
      rwa [Finding.isOfLine, hrule, ← Finding.isOfLine]
    · exact fun h => h.1
  have hcount := List.count_eq_one_of_mem (nodup_keys_ruleFindings t) (List.mem_map_of_mem hf)
  rw [hkey, ← List.countP_filter, filter_isOfLine_analyze]
  rwa [List.count, List.countP_map] at hcount

theorem countP_shadowedBuiltin_le (line : Text) :
    Line.rules.countP (fun rule => (rule line).any (·.rule = .shadowedBuiltin)) ≤ 1 := by
  have hcount := List.nodup_iff_count_le_one.mp (Line.nodup_map_rule_smells line) .shadowedBuiltin
  rw [List.count, List.countP_map, List.countP_filterMap] at hcount
  refine le_of_eq_of_le (List.countP_congr fun rule _ => ?_) hcount
  cases rule line with
  | none => simp
  | some m => simp

/-- **A rule and a line tell a finding.** What the rules for lines find on a line has different names. In
particular, at most one of the three rules for shadowed builtins finds something, and no line both misses a colon
and is a bare `except` clause. In an analysis the findings under the names of these rules are those of the lines,
and no other finding has the same rule and the same line as one of them. -/
theorem lineRules_identify :
    (∀ (n : Int) (line : Text), ((Line.findings n line).map (·.rule)).Nodup ∧
      ¬ ((∃ f ∈ Line.findings n line, f.rule = Rule.missingColon.name) ∧
        ∃ f ∈ Line.findings n line, f.rule = Rule.bareExcept.name)) ∧
    (∀ line : Text, Line.rules.countP (fun rule => (rule line).any (·.rule = .shadowedBuiltin)) ≤ 1) ∧
    ∀ t : Text, (analyze t).filter Finding.isOfLine = ruleFindings t ∧
      ∀ f ∈ ruleFindings t, (analyze t).countP (fun g => g.rule = f.rule ∧ g.line = f.line) = 1 := by
  refine ⟨fun n line => ⟨Line.nodup_map_rule_findings n line, ?_⟩, countP_shadowedBuiltin_le,
    fun t => ⟨filter_isOfLine_analyze t, fun f hf => countP_key_analyze hf⟩⟩
  rw [Line.exists_finding_iff, Line.exists_finding_iff]
  rintro ⟨hcolon, hbare⟩
  rw [Line.not_missingColon_of_bareExcept hbare] at hcolon
  cases hcolon

/-- A definition with three smells, and a bare `except` clause below it. -/
theorem lineRules_identify_shadowed :
    (Smell.shadowedBuiltin .function "list".toList).onLine 1 "def list(x)  ".toList ∈
        ruleFindings "def list(x)  \nexcept : # why\n".toList ∧
      (analyze "def list(x)  \nexcept : # why\n".toList).length = 4 ∧
      (analyze "def list(x)  \nexcept : # why\n".toList).countP
        (fun g => g.rule = Rule.shadowedBuiltin.name ∧ g.line = some 1) = 1 := by
  have hfound : (Smell.shadowedBuiltin .function "list".toList).onLine 1 "def list(x)  ".toList ∈
      ruleFindings "def list(x)  \nexcept : # why\n".toList := by decide +kernel
  exact ⟨hfound, by decide +kernel, (lineRules_identify.2.2 _).2 _ hfound⟩

end CodeSmell
