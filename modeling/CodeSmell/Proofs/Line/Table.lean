import CodeSmell.Proofs.Line.Statement
import CodeSmell.Proofs.Scan.Analysis

/-!
# The names that a line is reported under

The table of rules has three entries for shadowed builtins, which report under one name, and one entry for
each other name. The first word of a line decides which of the three may fire: a variable is the first word
and must be a builtin, while the other two ask for a keyword there.

* `shadows_exclusive` : at most one of the three ways to shadow a builtin is there;
* `breaks line r` : what the line must be like for the rule `r` to be reported;
* `map_rule_findings` : the names on a line are those of the rules that it breaks, in order;
* `exists_finding_iff`, `nodup_map_rule_findings` : a rule is reported when the line breaks it, and once.
-/

namespace CodeSmell

open Text

namespace Line

/-! ## Shadowed builtins -/

def isBuiltin (name? : Option Text) : Bool :=
  name?.any builtins.contains

theorem head?_words_of_isBuiltin_assigned {line : Text} (h : isBuiltin (assignedName? line) = true) :
    ∃ name ∈ builtins, (words line).head? = some name := by
  obtain ⟨name, hname, hbuiltin⟩ := (Option.any_eq_true _ _).mp h
  obtain ⟨ws, hws⟩ := words_of_assignedName? hname
  exact ⟨name, List.contains_iff_mem.mp hbuiltin, by rw [hws]; rfl⟩

theorem head?_words_of_isBuiltin_defined {keyword : Text} (hne : keyword ≠ [])
    (hkeyword : ∀ c ∈ keyword, isWord c = true) (closers : List Char) (line : Text)
    (h : isBuiltin (definedName? keyword closers line) = true) :
    (words line).head? = some keyword := by
  obtain ⟨name, hname, -⟩ := (Option.any_eq_true _ _).mp h
  obtain ⟨ws, hws⟩ := words_of_definedName? hne hkeyword hname
  rw [hws]
  rfl

/-- The ways in which a line can shadow a builtin, in the order of the table. -/
def shadows (line : Text) : List Bool :=
  [isBuiltin (assignedName? line), isBuiltin (definedName? "def".toList ['('] line),
    isBuiltin (definedName? "class".toList [':', '('] line)]

/-- No keyword is a builtin, and the first word of a line is one word. -/
theorem shadows_exclusive (line : Text) : (shadows line).Pairwise fun a b => ¬ (a = true ∧ b = true) := by
  have hdef : isBuiltin (definedName? "def".toList ['('] line) = true →
      (words line).head? = some "def".toList :=
    head?_words_of_isBuiltin_defined (by decide) (List.all_eq_true.mp (by decide)) _ line
  have hclass : isBuiltin (definedName? "class".toList [':', '('] line) = true →
      (words line).head? = some "class".toList :=
    head?_words_of_isBuiltin_defined (by decide) (List.all_eq_true.mp (by decide)) _ line
  simp only [shadows, List.pairwise_cons, List.mem_cons, List.not_mem_nil, or_false, forall_eq_or_imp,
    forall_eq, false_imp_iff, implies_true, List.Pairwise.nil, and_true]
  refine ⟨⟨?_, ?_⟩, ?_⟩
  · rintro ⟨hvar, hfun⟩
    obtain ⟨name, hname, hhead⟩ := head?_words_of_isBuiltin_assigned hvar
    rw [hdef hfun, Option.some.injEq] at hhead
    rw [← hhead] at hname
    exact absurd hname (by decide)
  · rintro ⟨hvar, htype⟩
    obtain ⟨name, hname, hhead⟩ := head?_words_of_isBuiltin_assigned hvar
    rw [hclass htype, Option.some.injEq] at hhead
    rw [← hhead] at hname
    exact absurd hname (by decide)
  · rintro ⟨hfun, htype⟩
    have hheads := (hdef hfun).symm.trans (hclass htype)
    exact absurd hheads (by decide)

/-- Of conditions that exclude each other, those that hold are none or one. -/
theorem filterMap_of_exclusive (r : Rule) {bs : List Bool}
    (h : bs.Pairwise fun a b => ¬ (a = true ∧ b = true)) :
    (bs.filterMap fun b => if b then some r else none) = if bs.any id then [r] else [] := by
  induction bs with
  | nil => rfl
  | cons b bs ih =>
    obtain ⟨hb, hbs⟩ := List.pairwise_cons.mp h
    cases b with
    | false => simpa using ih hbs
    | true =>
      have hnone : bs.any id = false := by
        rw [List.any_eq_false]
        exact fun a ha hid => hb a ha ⟨rfl, hid⟩
      rw [List.filterMap_cons_some (by rfl), ih hbs, hnone]
      rfl

/-! ## The rules that a line breaks -/

/-- The rules that look at one line by itself, in the order of the table. -/
def lineRules : List Rule :=
  Rule.all.filter Rule.ofLine

def breaks (line : Text) : Rule → Bool
  | .trailingWhitespace => hasTrailingBlanks line
  | .indentation => misaligned line
  | .missingColon => isHeader line && lacksColon line
  | .bareExcept => isBareExcept line
  | .pendingMarker => hasPendingMarker line
  | .dynamicCode => runsDynamicCode line
  | .literalIdentity => comparesIdentity line
  | .longLine => isTooLong line
  | .shadowedBuiltin => (shadows line).any id
  | _ => false

theorem mem_lineRules_of_breaks {line : Text} {r : Rule} (h : breaks line r = true) : r ∈ lineRules := by
  cases r
  case unmatchedBracket | mixedIndentation | indentLevels | duplicateImport | unusedImport | finalNewline
      | deepNesting | debugPrints | unreachableCode | plainText | unusedVariable => cases h
  all_goals decide

theorem map_rule_smellIf (condition : Text → Bool) (m : Smell) (line : Text) :
    (smellIf condition m line).map Smell.rule = if condition line then some m.rule else none := by
  unfold smellIf
  split_ifs <;> rfl

theorem map_rule_bind_shadowing (kind : BindingKind) (name? : Option Text) :
    (name?.bind (shadowing kind)).map Smell.rule =
      if isBuiltin name? then some .shadowedBuiltin else none := by
  cases name? with
  | none => rfl
  | some name =>
    rw [Option.bind_some, shadowing, isBuiltin, Option.any_some]
    by_cases h : builtins.contains name = true
    · rw [if_pos h, if_pos h]
      rfl
    · rw [if_neg h, if_neg h]
      rfl

/-- The names on a line are those of the rules that it breaks, each once. -/
theorem map_rule_smells (line : Text) :
    (rules.filterMap (· line)).map Smell.rule = lineRules.filter (breaks line) := by
  have hshadow := filterMap_of_exclusive .shadowedBuiltin (shadows_exclusive line)
  have htable : rules.map (fun rule => (rule line).map Smell.rule) =
      (lineRules.take 8).map (Option.guard (breaks line)) ++
        (shadows line).map fun b => if b then some .shadowedBuiltin else none := by
    simp only [rules, List.map_cons, List.map_nil, map_rule_smellIf, map_rule_bind_shadowing]
    rfl
  calc (rules.filterMap (· line)).map Smell.rule
      = (rules.map fun rule => (rule line).map Smell.rule).filterMap id := by
        rw [List.map_filterMap, List.filterMap_map]
        rfl
    _ = (lineRules.take 8).filter (breaks line) ++ if (shadows line).any id then [.shadowedBuiltin] else [] := by
        rw [htable, List.filterMap_append, List.filterMap_map, List.filterMap_map, ← hshadow,
          ← List.filterMap_eq_filter]
        rfl
    _ = (lineRules.take 8 ++ [Rule.shadowedBuiltin]).filter (breaks line) := by
        rw [List.filter_append, List.filter_singleton, Bool.cond_eq_ite]
        rfl
    _ = lineRules.filter (breaks line) := by
        rw [show lineRules.take 8 ++ [.shadowedBuiltin] = lineRules by decide]

theorem map_rule_findings (n : Int) (line : Text) :
    (findings n line).map (·.rule) = (lineRules.filter (breaks line)).map Rule.name := by
  rw [← map_rule_smells, findings, List.map_map, List.map_map]
  rfl

/-- A rule is reported on the lines that break it. -/
theorem exists_finding_iff {n : Int} {line : Text} {r : Rule} :
    (∃ f ∈ findings n line, f.rule = r.name) ↔ breaks line r = true := by
  have hmem : (∃ f ∈ findings n line, f.rule = r.name) ↔ r.name ∈ (findings n line).map (·.rule) :=
    List.mem_map.symm
  rw [hmem, map_rule_findings, List.mem_map_of_injective Rule.name_injective, List.mem_filter]
  exact ⟨fun h => h.2, fun h => ⟨mem_lineRules_of_breaks h, h⟩⟩

theorem nodup_map_rule_smells (line : Text) : ((rules.filterMap (· line)).map Smell.rule).Nodup := by
  have hrules : lineRules.Nodup := by decide
  rw [map_rule_smells]
  exact hrules.filter _

theorem nodup_map_rule_findings (n : Int) (line : Text) : ((findings n line).map (·.rule)).Nodup := by
  rw [map_rule_findings, ← map_rule_smells]
  exact (nodup_map_rule_smells line).map Rule.name_injective

end Line

end CodeSmell
