import CodeSmell.Scan.Analysis
import Mathlib.Data.List.Basic
import Mathlib.Data.List.Nodup
import Mathlib.Tactic.Common

/-!
# The parts of an analysis

* `Rule.name_injective` : different rules are reported under different names;
* `Finding.isOf r` : findings of the rule `r`;
* `Line.mem_findings`, `Check.mem_findings` : which rules the findings of a line and of a check are of, and
  `isOf_of_mem_findings`, `Bracket.isOf_of_mem_strayFindings` : which rules they are not of;
* `Scan.read_findings` : what one line adds;
* `analyze_eq` : an analysis is the findings of the lines and then those of the checks, which all see
  the state that the lines lead to.
-/

namespace CodeSmell

/-- The numbers of a numbered list go up. -/
theorem pairwise_snd_zipIdx {α : Type} (l : List α) (n : ℕ) :
    (l.zipIdx n).Pairwise fun p q => p.2 < q.2 := by
  refine List.pairwise_map.mp ?_
  rw [List.zipIdx_map_snd]
  exact List.pairwise_lt_range'

/-! ## Rules -/

namespace Rule

def all : List Rule :=
  [trailingWhitespace, indentation, missingColon, bareExcept, pendingMarker, dynamicCode,
    literalIdentity, longLine, shadowedBuiltin, unmatchedBracket, mixedIndentation, indentLevels,
    duplicateImport, unusedImport, finalNewline, deepNesting, debugPrints, unreachableCode, plainText,
    unusedVariable]

theorem mem_all (r : Rule) : r ∈ all := by
  cases r <;> decide

theorem nodup_names : (all.map name).Nodup := by decide +kernel

theorem name_injective : Function.Injective name := fun a b h =>
  List.inj_on_of_nodup_map nodup_names (mem_all a) (mem_all b) h

def ofLine : Rule → Bool
  | trailingWhitespace | indentation | missingColon | bareExcept | pendingMarker | dynamicCode
  | literalIdentity | longLine | shadowedBuiltin => true
  | _ => false

end Rule

namespace Finding

def isOf (r : Rule) (f : Finding) : Bool := f.rule = r.name

theorem isOf_finding (r : Rule) (m : Smell) (line : Option Int) (snippet : Option Text) :
    isOf r (m.finding line snippet) = decide (m.rule = r) := by
  simp only [isOf, Smell.finding, Rule.name_injective.eq_iff]

end Finding

/-! ## Lines -/

namespace Line

theorem smellIf_eq_some {condition : Text → Bool} {m m' : Smell} {line : Text}
    (h : smellIf condition m line = some m') : m' = m := by
  unfold smellIf at h
  split_ifs at h
  exact (Option.some.inj h).symm

theorem rule_of_shadowing {kind : BindingKind} {name : Text} {m : Smell}
    (h : shadowing kind name = some m) : m.rule = .shadowedBuiltin := by
  unfold shadowing at h
  split_ifs at h
  rw [← Option.some.inj h, Smell.rule]

/-- What a rule for lines finds is of a rule that looks at one line. -/
theorem rule_of_mem_rules {rule : Text → Option Smell} (hr : rule ∈ rules) {line : Text} {m : Smell}
    (h : rule line = some m) : m.rule.ofLine = true := by
  have hshadow : ∀ {kind : BindingKind} {name? : Option Text},
      name?.bind (shadowing kind) = some m → m.rule.ofLine = true := by
    intro kind name? hm
    obtain ⟨name, -, hname⟩ := Option.bind_eq_some_iff.mp hm
    rw [rule_of_shadowing hname, Rule.ofLine]
  simp only [rules, List.mem_cons, List.not_mem_nil, or_false] at hr
  rcases hr with rfl | rfl | rfl | rfl | rfl | rfl | rfl | rfl | rfl | rfl | rfl
  iterate 8
    · rw [smellIf_eq_some h]
      rfl
  iterate 3
    · exact hshadow h

theorem mem_findings {n : Int} {line : Text} {f : Finding} (h : f ∈ findings n line) :
    ∃ m : Smell, m.rule.ofLine = true ∧ f = m.onLine n line := by
  obtain ⟨m, hm, rfl⟩ := List.mem_map.mp h
  obtain ⟨rule, hrule, hline⟩ := List.mem_filterMap.mp hm
  exact ⟨m, rule_of_mem_rules hrule hline, rfl⟩

/-- What the rules for lines find is of no other rule. -/
theorem isOf_of_mem_findings {r : Rule} (hr : r.ofLine = false) {n : Int} {line : Text} {f : Finding}
    (hf : f ∈ findings n line) : Finding.isOf r f = false := by
  obtain ⟨m, hm, rfl⟩ := mem_findings hf
  rw [Smell.onLine, Finding.isOf_finding, decide_eq_false_iff_not]
  rintro rfl
  rw [hm] at hr
  cases hr

end Line

/-- Findings about stray closers are of the rule for brackets. -/
theorem Bracket.isOf_of_mem_strayFindings {n : Int} {line : Text} {m : Matching} {f : Finding}
    (hf : f ∈ strayFindings n line m) (r : Rule) :
    Finding.isOf r f = decide (.unmatchedBracket = r) := by
  obtain ⟨c, -, rfl⟩ := List.mem_map.mp hf
  rw [Smell.onLine, Finding.isOf_finding, Smell.rule]

/-! ## Checks -/

namespace Check

def rule : Check → Rule
  | mixedIndentation => .mixedIndentation
  | indentLevels => .indentLevels
  | duplicateImports => .duplicateImport
  | unusedImports => .unusedImport
  | finalNewline => .finalNewline
  | unclosedBrackets => .unmatchedBracket
  | deepNesting => .deepNesting
  | debugPrints => .debugPrints
  | unreachableCode => .unreachableCode
  | plainText => .plainText
  | unusedVariables => .unusedVariable

theorem mem_unusedVariablesFrom {t : Text} {lines : List Text} {assigned : List (Text × Int)}
    {found : List Finding} {f : Finding}
    (h : f ∈ (unusedVariablesFrom t lines found assigned).1) :
    f ∈ found ∨ ∃ name n line, f = (Smell.unusedVariable name).onLine n line := by
  induction assigned generalizing found with
  | nil => exact Or.inl (List.mem_reverse.mp h)
  | cons a assigned ih =>
    obtain ⟨name, n⟩ := a
    rw [unusedVariablesFrom] at h
    split_ifs at h with hu
    · split at h
      · exact Or.inl (List.mem_reverse.mp h)
      · rcases ih h with h | h
        · rcases List.mem_cons.mp h with rfl | h
          · exact Or.inr ⟨_, _, _, rfl⟩
          · exact Or.inl h
        · exact Or.inr h
    · exact ih h

/-- All that a check finds is of its rule. -/
theorem mem_findings {t : Text} {s : ScanState} {c : Check} {f : Finding} (h : f ∈ c.findings t s) :
    ∃ m : Smell, m.rule = c.rule ∧ ∃ line snippet, f = m.finding line snippet := by
  cases c
  case duplicateImports =>
    obtain ⟨l, -, hl⟩ := List.mem_filterMap.mp h
    split at hl
    · exact ⟨_, rfl, _, _, (Option.some.inj hl).symm⟩
    · cases hl
  case unusedImports =>
    obtain ⟨name, -, rfl⟩ := List.mem_map.mp h
    exact ⟨.unusedImport name, rfl, _, _, rfl⟩
  case unclosedBrackets =>
    obtain ⟨b, -, rfl⟩ := List.mem_map.mp h
    exact ⟨.unclosedOpener b.bracket, rfl, _, _, rfl⟩
  case unreachableCode =>
    obtain ⟨l, -, rfl⟩ := List.mem_map.mp h
    exact ⟨.unreachable l.2, rfl, _, _, rfl⟩
  case unusedVariables =>
    rcases mem_unusedVariablesFrom h with h | ⟨name, n, line, rfl⟩
    · cases h
    · exact ⟨.unusedVariable name, rfl, _, _, rfl⟩
  all_goals
    simp only [findings, findingsIn] at h
    split_ifs at h
    · exact ⟨_, rfl, _, _, List.mem_singleton.mp h⟩
    · cases h

theorem isOf_of_mem_findings {t : Text} {s : ScanState} {c : Check} {f : Finding}
    (hf : f ∈ c.findings t s) (r : Rule) : Finding.isOf r f = decide (c.rule = r) := by
  obtain ⟨m, hm, line, snippet, rfl⟩ := mem_findings hf
  rw [Finding.isOf_finding, hm]

/-- A filter that asks only whether a finding is of the rule `r` keeps all that a check finds, or
nothing. -/
theorem filter_flatMap_findings (keep : Bool → Bool) (r : Rule) (t : Text) (s : ScanState)
    (cs : List Check) :
    (cs.flatMap fun c => c.findings t s).filter (fun f => keep (Finding.isOf r f)) =
      (cs.filter fun c => keep (decide (c.rule = r))).flatMap fun c => c.findings t s := by
  induction cs with
  | nil => rfl
  | cons c cs ih =>
    have hkeep : ∀ f ∈ c.findings t s, keep (Finding.isOf r f) = keep (decide (c.rule = r)) :=
      fun f hf => congrArg keep (isOf_of_mem_findings hf r)
    rw [List.flatMap_cons, List.filter_append, ih, List.filter_cons]
    cases hc : keep (decide (c.rule = r)) with
    | true =>
      rw [if_pos rfl, List.flatMap_cons, List.filter_eq_self.mpr fun f hf => (hkeep f hf).trans hc]
    | false =>
      rw [if_neg Bool.false_ne_true, List.filter_eq_nil_iff.mpr fun f hf => by rw [hkeep f hf, hc]; simp,
        List.nil_append]

end Check

/-! ## The analysis -/

namespace Scan

theorem read_findings (s : Scan) (l : Text × Nat) :
    (s.read l).findings.toList = s.findings.toList ++ (s.state.readLine l.2 l.1).2 := by
  simp [read]

end Scan

/-- The check of the open brackets is the only one that changes the state, and no check after it looks
at what it changes. -/
theorem analyze_eq (t : Text) :
    analyze t = (scanLines t.lines).findings.toList ++
      Check.all.flatMap fun c => c.findings t (scanLines t.lines).state := by
  simp only [analyze, Check.all, List.foldl_cons, List.foldl_nil, Scan.check, Check.after,
    Array.toList_appendList, List.flatMap_cons, List.flatMap_nil, List.append_assoc, List.append_nil]
  rfl

/-- The findings of one rule: those of the lines, and those of the checks that report under it. -/
theorem filter_isOf_analyze (r : Rule) (t : Text) :
    (analyze t).filter (Finding.isOf r) =
      (scanLines t.lines).findings.toList.filter (Finding.isOf r) ++
        (Check.all.filter (·.rule = r)).flatMap fun c => c.findings t (scanLines t.lines).state := by
  rw [analyze_eq, List.filter_append]
  congr 1
  exact Check.filter_flatMap_findings id r t _ Check.all

end CodeSmell
