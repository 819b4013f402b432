import CodeSmell.Proofs.LineEndings
import CodeSmell.Proofs.Scan.Places
import CodeSmell.Proofs.Text.Numerals

/-!
# What findings are made of

* `Smell.quoted` : what a message quotes of the text; all else in it is fixed, or a number;
* `Smell.isSentence_message` : messages are sentences of one line;
* `Finding.Legible` : findings with a rule and its severity, a sentence, and a part of a line or nothing;
* `legible_of_mem_scanLines`, `legible_of_mem_check`, `legible_of_mem_analyze` : the findings of an
  analysis are such findings.
-/

namespace CodeSmell

open Text

/-! ## Messages -/

/-- A text of one line that ends in a full stop. -/
def IsSentence (t : Text) : Prop :=
  t.getLast? = some '.' ∧ '\n' ∉ t

theorem IsSentence.append {t u : Text} (ht : '\n' ∉ t) (hu : IsSentence u) : IsSentence (t ++ u) := by
  refine ⟨by rw [List.getLast?_append, hu.1, Option.some_or], ?_⟩
  rw [List.mem_append, not_or]
  exact ⟨ht, hu.2⟩

namespace Smell

/-- What the message of a smell quotes of the text. -/
def quoted : Smell → Text
  | shadowedBuiltin _ name | unusedImport name | unusedVariable name => name
  | strayCloser c | unclosedOpener c => [c]
  | _ => []

/-- A message is one sentence, unless what it quotes goes over a line end. -/
theorem isSentence_message {m : Smell} (h : '\n' ∉ m.quoted) : IsSentence m.message := by
  have hnat : ∀ n, '\n' ∉ ofNat n := notMem_ofNat (by decide)
  have hint : ∀ n, '\n' ∉ ofInt n := notMem_ofInt (by decide) (by decide)
  have happ : ∀ {t u : Text}, '\n' ∉ t → '\n' ∉ u → '\n' ∉ t ++ u := by
    intro t u ht hu
    rw [List.mem_append, not_or]
    exact ⟨ht, hu⟩
  cases m
  case longLine n =>
    exact .append (happ (happ (happ (by simp) (hnat n)) (by simp)) (hnat _)) (by simp [IsSentence])
  case shadowedBuiltin kind name =>
    have hkind : '\n' ∉ kind.label := by cases kind <;> decide
    exact .append (happ (happ hkind (by simp)) h) (by simp [IsSentence])
  case strayCloser c | unclosedOpener c =>
    have hc : '\n' ≠ c := fun he => h (List.mem_singleton.mpr he)
    exact .append (by simp) (by simp [IsSentence, hc])
  case repeatedImport n | deepNesting n | debugPrints n =>
    exact .append (happ (by simp) (hnat n)) (by simp [IsSentence])
  case unreachable n => exact .append (happ (by simp) (hint n)) (by simp [IsSentence])
  case unusedImport name | unusedVariable name =>
    exact .append (happ (by simp) h) (by simp [IsSentence])
  all_goals
    show IsSentence (String.toList _)
    simp [IsSentence]

end Smell

theorem Rule.notMem_name (r : Rule) : ']' ∉ r.name ∧ '\n' ∉ r.name := by
  have hall : ∀ r ∈ all, ']' ∉ r.name ∧ '\n' ∉ r.name := by decide +kernel
  exact hall r (mem_all r)

/-! ## Legible findings -/

/-- The finding is reported under a rule with its severity, its message is one sentence, and what it shows
of the text is a part of a line. -/
structure Finding.Legible (f : Finding) : Prop where
  rule : ∃ r : Rule, f.rule = r.name ∧ f.severity = r.severity
  message : IsSentence f.message
  snippet : ∀ s ∈ f.snippet, s ≠ [] ∧ '\n' ∉ s

theorem Smell.legible_finding {m : Smell} {line : Option Int} {snippet : Option Text}
    (hquoted : '\n' ∉ m.quoted) (hsnippet : ∀ s ∈ snippet, s ≠ [] ∧ '\n' ∉ s) :
    (m.finding line snippet).Legible :=
  ⟨⟨m.rule, rfl, rfl⟩, isSentence_message hquoted, hsnippet⟩

theorem Smell.legible_onLine {m : Smell} {n : Int} {t line : Text} (hquoted : '\n' ∉ m.quoted)
    (hline : line ∈ t.lines) (hne : line ≠ []) : (m.onLine n line).Legible := by
  refine legible_finding hquoted fun s hs => ?_
  obtain rfl : line = s := Option.mem_some.mp hs
  exact ⟨hne, feed_notMem_of_mem_lines hline⟩

theorem Smell.legible_inFile {m : Smell} (hquoted : '\n' ∉ m.quoted) : m.inFile.Legible :=
  legible_finding hquoted fun s hs => by cases hs

namespace Line

/-- No rule for lines finds anything on an empty line. -/
theorem ne_nil_of_mem_rules {rule : Text → Option Smell} (hrule : rule ∈ rules) {line : Text} {m : Smell}
    (h : rule line = some m) : line ≠ [] := by
  have hnone : rules.filterMap (· []) = [] := by decide
  rintro rfl
  have hmem : m ∈ rules.filterMap (· []) := List.mem_filterMap.mpr ⟨rule, hrule, h⟩
  rw [hnone] at hmem
  cases hmem

/-- What a rule for lines quotes is the name of a builtin. -/
theorem feed_notMem_quoted {rule : Text → Option Smell} (hrule : rule ∈ rules) {line : Text} {m : Smell}
    (h : rule line = some m) : '\n' ∉ m.quoted := by
  have hshadow : ∀ {kind : BindingKind} {name? : Option Text},
      name?.bind (shadowing kind) = some m → '\n' ∉ m.quoted := by
    intro kind name? hm
    obtain ⟨name, -, hname⟩ := Option.bind_eq_some_iff.mp hm
    have hbuiltins : ∀ name ∈ builtins, '\n' ∉ name := by decide +kernel
    unfold shadowing at hname
    split_ifs at hname with hb
    cases hname
    exact hbuiltins name (List.contains_iff_mem.mp hb)
  simp only [rules, List.mem_cons, List.not_mem_nil, or_false] at hrule
  rcases hrule with rfl | rfl | rfl | rfl | rfl | rfl | rfl | rfl | rfl | rfl | rfl
  iterate 8
    · rw [smellIf_eq_some h]
      exact List.not_mem_nil
  iterate 3
    · exact hshadow h

end Line

theorem legible_of_mem_scanLines {t : Text} {f : Finding}
    (hf : f ∈ (scanLines t.lines).findings.toList) : f.Legible := by
  obtain ⟨i, line, hline, m, rfl, ⟨rule, hrule, hm⟩ | ⟨c, hc, -, rfl⟩⟩ := mem_findings_scanLines hf
  · exact m.legible_onLine (Line.feed_notMem_quoted hrule hm) (List.mem_of_getElem? hline)
      (Line.ne_nil_of_mem_rules hrule hm)
  · have hmem := List.mem_of_getElem? hline
    refine Smell.legible_onLine ?_ hmem (List.ne_nil_of_mem hc)
    exact fun hfeed => (mem_of_mem_lines hmem hc).2 (List.mem_singleton.mp hfeed).symm

theorem isIdentifier_of_isUnused {t name : Text} (h : isUnused t name = true) :
    name.isIdentifier = true := by
  unfold isUnused occurrences? at h
  split_ifs at h with hid
  · exact hid
  · cases h

theorem feed_notMem_of_isUnused {t name : Text} (h : isUnused t name = true) : '\n' ∉ name :=
  notMem_of_isIdentifier (isIdentifier_of_isUnused h) (by decide) (by decide)

theorem mem_intercalate {sep : Char} {parts : List Text} {c : Char} (h : c ∈ [sep].intercalate parts) :
    c = sep ∨ ∃ p ∈ parts, c ∈ p := by
  induction parts with
  | nil => cases h
  | cons p parts ih =>
    cases parts with
    | nil =>
      rw [List.intercalate_singleton] at h
      exact Or.inr ⟨p, List.mem_cons_self, h⟩
    | cons q parts =>
      rw [List.intercalate_cons_cons, List.mem_append, List.mem_append, List.mem_singleton] at h
      rcases h with (h | h) | h
      · exact Or.inr ⟨p, List.mem_cons_self, h⟩
      · exact Or.inl h
      · rcases ih h with h | ⟨r, hr, h⟩
        · exact Or.inl h
        · exact Or.inr ⟨r, List.mem_cons_of_mem _ hr, h⟩

/-- An excerpt of prose is made of words and blanks. -/
theorem proseExcerpt_shown {t s : Text} (h : s ∈ proseExcerpt t) : s ≠ [] ∧ '\n' ∉ s := by
  simp only [proseExcerpt, Option.mem_def] at h
  split_ifs at h with hempty
  cases h
  refine ⟨fun he => hempty (List.isEmpty_iff.mpr he), fun hfeed => ?_⟩
  rcases mem_intercalate (List.mem_of_mem_take hfeed) with hblank | ⟨w, hw, hfeed⟩
  · cases hblank
  · have hword := isWord_of_mem_words (List.mem_filter.mp (List.mem_of_mem_take hw)).1 hfeed
    rw [isWord_feed] at hword
    cases hword

theorem legible_of_mem_check {t : Text} {c : Check} {f : Finding}
    (hf : f ∈ c.findings t (scanLines t.lines).state) : f.Legible := by
  cases c
  case duplicateImports =>
    obtain ⟨l, hl, hlf⟩ := List.mem_filterMap.mp hf
    obtain ⟨hmem, himports⟩ := ((logsImports_scanLines t.lines).statement _).mp ⟨l, hl, rfl⟩
    have hne : l.statement ≠ [] := by
      intro he
      rw [he] at himports
      cases himports
    split at hlf
    · cases hlf
      exact Smell.legible_onLine List.not_mem_nil hmem hne
    · cases hlf
  case unusedImports =>
    obtain ⟨name, hname, rfl⟩ := List.mem_map.mp hf
    exact Smell.legible_inFile (feed_notMem_of_isUnused (List.mem_filter.mp hname).2)
  case unclosedBrackets =>
    obtain ⟨b, hb, rfl⟩ := List.mem_map.mp hf
    obtain ⟨i, j, line, hline, hj, -⟩ := Bracket.mem_openBrackets_scanLines hb
    have hne := (mem_of_mem_lines (List.mem_of_getElem? hline) (List.mem_of_getElem? hj)).2
    refine Smell.legible_finding ?_ fun s hs => by cases hs
    exact fun hfeed => hne (List.mem_singleton.mp hfeed).symm
  case unreachableCode =>
    obtain ⟨⟨line, n⟩, hl, rfl⟩ := List.mem_map.mp hf
    obtain ⟨i, -, hi, hsig⟩ := mem_unreachableLines hl
    refine Smell.legible_onLine List.not_mem_nil (List.mem_of_getElem? hi) ?_
    rintro rfl
    cases hsig
  case plainText =>
    simp only [Check.findings, Check.findingsIn] at hf
    split_ifs at hf
    · rw [List.mem_singleton.mp hf]
      exact Smell.legible_finding List.not_mem_nil fun s hs => proseExcerpt_shown hs
    · cases hf
  case unusedVariables =>
    rw [Check.findings, Check.findingsIn, unusedVariables_scanLines] at hf
    obtain ⟨⟨name, n⟩, ha, rfl⟩ := List.mem_map.mp hf
    obtain ⟨ha, hunused⟩ := List.mem_filter.mp ha
    obtain ⟨i, hi, rfl⟩ := (recordsFirst_scanLines t.lines name n).mp ha
    obtain ⟨line, hline, hassigned⟩ := assignedName?_of_firstAssignment? hi
    have hne : line ≠ [] := by
      rintro rfl
      cases hassigned
    have hfinding : variableFinding t.lines (name, ((i + 1 : ℕ) : ℤ)) =
        (Smell.unusedVariable name).onLine (i + 1 : ℕ) line := by
      simp [variableFinding, Smell.onLine, hline]
    rw [hfinding]
    exact Smell.legible_onLine (feed_notMem_of_isUnused hunused) (List.mem_of_getElem? hline) hne
  all_goals
    simp only [Check.findings, Check.findingsIn] at hf
    split_ifs at hf
    · rw [List.mem_singleton.mp hf]
      exact Smell.legible_inFile List.not_mem_nil
    · cases hf

/-- All findings of an analysis are legible. -/
theorem legible_of_mem_analyze {t : Text} {f : Finding} (hf : f ∈ analyze t) : f.Legible := by
  rw [analyze_eq, List.mem_append] at hf
  rcases hf with hf | hf
  · exact legible_of_mem_scanLines hf
  · obtain ⟨c, -, hc⟩ := List.mem_flatMap.mp hf
    exact legible_of_mem_check hc

end CodeSmell
