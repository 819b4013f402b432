import CodeSmell.Proofs.Scan.Checks

/-!
# Names that stand only once

An assigned or imported name is reported when the text holds it at most once between word boundaries.
Since the line that assigns or imports it holds it as a word, that means exactly once.

* `Reports t m` : the analysis of `t` has a finding about the smell `m`;
* `isUnused_iff` : a name of word characters is unused when it is at most one word of the text;
* `count_add_count_le` : two lines of a text have together no more words than the text;
* `AssignedOnce t v` : the text assigns to `v` and has no other word `v`;
* `unusedVariable_findings` : the findings about assigned names are about these names, in text order;
* `unusedImport_findings` : an imported name is reported, once, exactly when no other word is equal to
  it, and no name is reported both as assigned and as imported.
-/

namespace CodeSmell

open Text

/-! ## Reports -/

def Finding.tells (m : Smell) (f : Finding) : Bool :=
  f.rule = m.rule.name && f.message = m.message

/-- The analysis of `t` has a finding about the smell `m`. -/
def Reports (t : Text) (m : Smell) : Prop :=
  ∃ f ∈ analyze t, f.tells m = true

theorem unusedVariable_message_injective :
    Function.Injective fun v => (Smell.unusedVariable v).message := by
  intro v w h
  exact List.append_cancel_left (List.append_cancel_right h)

theorem unusedImport_message_injective :
    Function.Injective fun v => (Smell.unusedImport v).message := by
  intro v w h
  exact List.append_cancel_left (List.append_cancel_right h)

theorem reports_iff_countP {t : Text} {m : Smell} :
    Reports t m ↔ 0 < (analyze t).countP (Finding.tells m) :=
  List.countP_pos_iff.symm

/-- Findings about a smell are found among those of the check that reports under its rule. -/
theorem countP_tells {c : Check} (hc : c ≠ .unclosedBrackets) {m : Smell} (hm : m.rule = c.rule)
    (t : Text) : (analyze t).countP (Finding.tells m) =
      (c.findings t (scanLines t.lines).state).countP (·.message = m.message) := by
  have htells : Finding.tells m = fun f => decide (f.message = m.message) && Finding.isOf c.rule f := by
    funext f
    rw [Finding.tells, Finding.isOf, hm, Bool.and_comm]
  rw [← filter_isOf_rule hc, List.countP_filter, htells]

/-! ## Words of the lines -/

theorem isUnused_iff {name : Text} (hname : ∀ c ∈ name, isWord c = true) (t : Text) :
    isUnused t name = true ↔ name.isIdentifier = true ∧ (words t).count name ≤ 1 := by
  by_cases hid : name.isIdentifier = true
  · rw [isUnused, occurrences?_eq_count hid hname]
    simp [hid]
  · simp [isUnused, occurrences?, hid]

theorem count_le_count_flatMap {lines : List Text} {line : Text} (h : line ∈ lines) (v : Text) :
    (words line).count v ≤ (lines.flatMap words).count v :=
  (List.sublist_flatten_of_mem (List.mem_map_of_mem h)).count_le v

theorem count_words_le {t line : Text} (h : line ∈ t.lines) (v : Text) :
    (words line).count v ≤ (words t).count v := by
  rw [← words_lines t]
  exact count_le_count_flatMap h v

/-- Two lines of a text have together no more words than the text. -/
theorem count_add_count_le {t : Text} {i j : ℕ} (hij : i ≠ j) {line line' : Text}
    (hi : t.lines[i]? = some line) (hj : t.lines[j]? = some line') (v : Text) :
    (words line).count v + (words line').count v ≤ (words t).count v := by
  wlog hlt : i < j generalizing i j line line'
  · have := this hij.symm hj hi (by omega)
    omega
  obtain ⟨hlen, hget⟩ := List.getElem?_eq_some_iff.mp hj
  have hsplit : t.lines = t.lines.take j ++ line' :: t.lines.drop (j + 1) := by
    conv_lhs => rw [← List.take_append_drop j t.lines, List.drop_eq_getElem_cons hlen, hget]
  have hmem : line ∈ t.lines.take j :=
    List.mem_of_getElem? ((List.getElem?_take_of_lt hlt).trans hi)
  have hle := count_le_count_flatMap hmem v
  rw [← words_lines t, hsplit, List.flatMap_append, List.flatMap_cons, List.count_append,
    List.count_append]
  omega

/-! ## Assigned names -/

/-- The text assigns to the name `v` and holds it nowhere else as a word. -/
structure AssignedOnce (t v : Text) : Prop where
  isName : Line.IsVariableName v
  isIdentifier : v.isIdentifier = true
  assigned : ∃ line ∈ t.lines, Line.AssignsTo line v
  once : (words t).count v = 1

theorem count_words_pos_of_assigned {t line v : Text} (hline : line ∈ t.lines)
    (h : Line.assignedName? line = some v) : 0 < (words t).count v := by
  obtain ⟨ws, hws⟩ := Line.words_of_assignedName? h
  have hle := count_words_le hline v
  rw [hws, List.count_cons_self] at hle
  omega

/-- The assigned names that are unused are those that are assigned to and stand nowhere else. -/
theorem mem_assigned_and_isUnused_iff {t v : Text} {n : Int} :
    (v, n) ∈ (scanLines t.lines).state.assigned ∧ isUnused t v = true ↔
      AssignedOnce t v ∧ ∃ i, firstAssignment? t.lines v = some i ∧ n = (i + 1 : ℕ) := by
  rw [recordsFirst_scanLines]
  constructor
  · rintro ⟨⟨i, hi, rfl⟩, hunused⟩
    obtain ⟨line, hline, hassigned⟩ := assignedName?_of_firstAssignment? hi
    have hmem := List.mem_of_getElem? hline
    obtain ⟨hname, hassigns⟩ := Line.assignedName?_eq_some_iff.mp hassigned
    obtain ⟨hid, hcount⟩ := (isUnused_iff hname.isWord t).mp hunused
    have hpos := count_words_pos_of_assigned hmem hassigned
    exact ⟨⟨hname, hid, ⟨line, hmem, hassigns⟩, by omega⟩, i, hi, rfl⟩
  · rintro ⟨h, hfirst⟩
    exact ⟨hfirst, (isUnused_iff h.isName.isWord t).mpr ⟨h.isIdentifier, h.once.le⟩⟩

theorem AssignedOnce.exists_first {t v : Text} (h : AssignedOnce t v) :
    ∃ i, firstAssignment? t.lines v = some i := by
  obtain ⟨line, hline, hassigns⟩ := h.assigned
  exact exists_firstAssignment? hline (Line.assignedName?_eq_some_iff.mpr ⟨h.isName, hassigns⟩)

/-- The line where such a name is assigned to is the only one that holds it. -/
theorem AssignedOnce.mem_words_iff {t v : Text} (h : AssignedOnce t v) {i : ℕ}
    (hi : firstAssignment? t.lines v = some i) {j : ℕ} {line : Text} (hj : t.lines[j]? = some line) :
    v ∈ words line ↔ j = i := by
  obtain ⟨first, hfirst, hassigned⟩ := assignedName?_of_firstAssignment? hi
  obtain ⟨ws, hws⟩ := Line.words_of_assignedName? hassigned
  constructor
  · intro hmem
    by_contra hne
    have hle := count_add_count_le hne hj hfirst v
    have hpos := List.count_pos_iff.mpr hmem
    rw [hws, List.count_cons_self, h.once] at hle
    omega
  · rintro rfl
    rw [hfirst] at hj
    cases hj
    rw [hws]
    exact List.mem_cons_self

/-- The assigned names that are reported, each with the index of its line. -/
def unusedAssigned (t : Text) : List (Text × ℕ) :=
  ((scanLines t.lines).state.assigned.filter (isUnused t ·.1)).map fun a => (a.1, (a.2 - 1).toNat)

theorem mem_unusedAssigned {t v : Text} {i : ℕ} :
    (v, i) ∈ unusedAssigned t ↔ AssignedOnce t v ∧ firstAssignment? t.lines v = some i := by
  simp only [unusedAssigned, List.mem_map, List.mem_filter, Prod.exists, Prod.mk.injEq]
  constructor
  · rintro ⟨w, n, hmem, rfl, rfl⟩
    obtain ⟨h, i, hi, rfl⟩ := mem_assigned_and_isUnused_iff.mp hmem
    exact ⟨h, by simpa using hi⟩
  · rintro ⟨h, hi⟩
    exact ⟨v, (i + 1 : ℕ), mem_assigned_and_isUnused_iff.mpr ⟨h, i, hi, rfl⟩, rfl, by simp⟩

theorem pairwise_unusedAssigned (t : Text) : (unusedAssigned t).Pairwise fun p q => p.2 < q.2 := by
  refine List.pairwise_map.mpr (((pairwise_assigned_scanLines t.lines).filter _).imp_of_mem ?_)
  rintro ⟨v, m⟩ ⟨w, n⟩ hv hw hlt
  obtain ⟨-, i, -, rfl⟩ := mem_assigned_and_isUnused_iff.mp (List.mem_filter.mp hv)
  obtain ⟨-, j, -, rfl⟩ := mem_assigned_and_isUnused_iff.mp (List.mem_filter.mp hw)
  simp only at hlt ⊢
  omega

theorem findings_unusedVariables (t : Text) :
    Check.unusedVariables.findings t (scanLines t.lines).state =
      (unusedAssigned t).map fun p =>
        (Smell.unusedVariable p.1).finding (some (p.2 + 1 : ℕ)) t.lines[p.2]? := by
  rw [Check.findings, Check.findingsIn, unusedVariables_scanLines, unusedAssigned, List.map_map]
  refine List.map_congr_left ?_
  rintro ⟨v, n⟩ hmem
  obtain ⟨-, i, -, rfl⟩ := mem_assigned_and_isUnused_iff.mp (List.mem_filter.mp hmem)
  simp [variableFinding]

theorem reports_unusedVariable_iff {t v : Text} : Reports t (.unusedVariable v) ↔ AssignedOnce t v := by
  rw [reports_iff_countP, countP_tells (c := .unusedVariables) (by decide) rfl,
    findings_unusedVariables, List.countP_map, List.countP_pos_iff]
  constructor
  · rintro ⟨⟨w, i⟩, hmem, hmessage⟩
    obtain rfl : w = v := unusedVariable_message_injective (of_decide_eq_true hmessage)
    exact (mem_unusedAssigned.mp hmem).1
  · intro h
    obtain ⟨i, hi⟩ := h.exists_first
    exact ⟨(v, i), mem_unusedAssigned.mpr ⟨h, hi⟩, decide_eq_true rfl⟩

/-- **Assigned names are reported when they stand nowhere else.** Each is reported once, in the order of
the lines, and its line is the only one that holds it. -/
theorem unusedVariable_findings (t : Text) :
    (∀ v, Reports t (.unusedVariable v) ↔ AssignedOnce t v) ∧
    ∃ found : List (Text × ℕ),
      (analyze t).filter (·.rule = Rule.unusedVariable.name) =
        found.map (fun p => (Smell.unusedVariable p.1).finding (some (p.2 + 1 : ℕ)) t.lines[p.2]?) ∧
      (found.map (·.1)).Nodup ∧ found.Pairwise (fun p q => p.2 < q.2) ∧
      ∀ p ∈ found, (∃ line, t.lines[p.2]? = some line ∧ Line.AssignsTo line p.1) ∧
        ∀ j line, t.lines[j]? = some line → (p.1 ∈ words line ↔ j = p.2) := by
  refine ⟨fun v => reports_unusedVariable_iff, unusedAssigned t, ?_, ?_, pairwise_unusedAssigned t, ?_⟩
  · exact (filter_isOf_rule (c := .unusedVariables) (by decide) t).trans (findings_unusedVariables t)
  · -- a name has one first line, so a name that comes twice would have two numbers
    refine List.pairwise_map.mpr ((pairwise_unusedAssigned t).imp_of_mem ?_)
    rintro ⟨v, i⟩ ⟨w, j⟩ hv hw hlt rfl
    have hi := (mem_unusedAssigned.mp hv).2
    have hj := (mem_unusedAssigned.mp hw).2
    rw [hi, Option.some.injEq] at hj
    exact hlt.ne hj
  · rintro ⟨v, i⟩ hmem
    obtain ⟨h, hi⟩ := mem_unusedAssigned.mp hmem
    obtain ⟨line, hline, hassigned⟩ := assignedName?_of_firstAssignment? hi
    exact ⟨⟨line, hline, (Line.assignedName?_eq_some_iff.mp hassigned).2⟩,
      fun j line hj => h.mem_words_iff hi hj⟩

/-! ## Imported names -/

theorem countP_tells_unusedImport (t name : Text) :
    (analyze t).countP (Finding.tells (.unusedImport name)) =
      ((scanLines t.lines).state.importedNames.filter (isUnused t)).count name := by
  rw [countP_tells (c := .unusedImports) (by decide) rfl, Check.findings, Check.findingsIn, List.countP_map, List.count]
  refine List.countP_congr fun v _ => ?_
  have hmessage := unusedImport_message_injective.eq_iff (a := v) (b := name)
  simp [Smell.inFile, Smell.finding, hmessage]

theorem reports_unusedImport_iff {t name : Text} :
    Reports t (.unusedImport name) ↔
      (∃ line ∈ t.lines, name ∈ Line.imported line) ∧ isUnused t name = true := by
  rw [reports_iff_countP, countP_tells_unusedImport, List.count_pos_iff, List.mem_filter,
    mem_importedNames_scanLines]
  constructor
  · rintro ⟨⟨-, h⟩, hu⟩
    exact ⟨h, hu⟩
  · rintro ⟨h, hu⟩
    refine ⟨⟨?_, h⟩, hu⟩
    rintro rfl
    cases hu

section
variable {t name : Text} (hne : name ≠ []) (hname : ∀ c ∈ name, isWord c = true)
include hne hname

theorem count_imported_le_count {line : Text} (h : line ∈ t.lines) :
    (Line.imported line).count name ≤ (words t).count name :=
  (Line.count_imported_le hne hname line).trans (count_words_le h name)

/-- A name that one line assigns to and another, or the same, imports is two words of the text. -/
theorem two_le_count_of_assigned_of_imported {line line' : Text} (hline : line ∈ t.lines)
    (hassigned : Line.assignedName? line = some name) (hline' : line' ∈ t.lines)
    (himported : name ∈ Line.imported line') : 2 ≤ (words t).count name := by
  have hpos := List.count_pos_iff.mpr himported
  obtain ⟨i, hi⟩ := List.mem_iff_getElem?.mp hline
  obtain ⟨j, hj⟩ := List.mem_iff_getElem?.mp hline'
  by_cases hij : i = j
  · subst hij
    rw [hi, Option.some.injEq] at hj
    subst hj
    have hlt := Line.count_imported_lt hne hname line hassigned
    have hle := count_words_le hline name
    omega
  · obtain ⟨ws, hws⟩ := Line.words_of_assignedName? hassigned
    have hle := count_add_count_le hij hi hj name
    have hle' := Line.count_imported_le hne hname line'
    rw [hws, List.count_cons_self] at hle
    omega

end

/-- **Imported names are reported when they stand nowhere else.** A name that is an identifier of word
characters is reported, once, exactly when a line imports it and the text has no other word equal to it,
so not when it is imported twice. No name at all is reported both as imported and as assigned. -/
theorem unusedImport_findings (t : Text) :
    (∀ name : Text, name.isIdentifier = true → (∀ c ∈ name, isWord c = true) →
      (Reports t (.unusedImport name) ↔
        (∃ line ∈ t.lines, name ∈ Line.imported line) ∧ (words t).count name = 1) ∧
      (Reports t (.unusedImport name) →
        (analyze t).countP (Finding.tells (.unusedImport name)) = 1) ∧
      (∀ (i j : ℕ) (line line' : Text), i ≠ j → t.lines[i]? = some line → t.lines[j]? = some line' →
        name ∈ Line.imported line → name ∈ Line.imported line' → ¬ Reports t (.unusedImport name)) ∧
      (∀ line ∈ t.lines, 2 ≤ (Line.imported line).count name → ¬ Reports t (.unusedImport name))) ∧
    ∀ name : Text, ¬ (Reports t (.unusedImport name) ∧ Reports t (.unusedVariable name)) := by
  refine ⟨fun name hid hname => ?_, fun name => ?_⟩
  · have hne : name ≠ [] := by
      rintro rfl
      cases hid
    have hiff : Reports t (.unusedImport name) ↔
        (∃ line ∈ t.lines, name ∈ Line.imported line) ∧ (words t).count name = 1 := by
      rw [reports_unusedImport_iff, isUnused_iff hname, and_iff_right hid]
      refine and_congr_right fun ⟨line, hline, hmem⟩ => ?_
      have hle := count_imported_le_count hne hname hline
      have hpos := List.count_pos_iff.mpr hmem
      omega
    refine ⟨hiff, fun h => ?_, fun i j line line' hij hi hj hmem hmem' h => ?_,
      fun line hline htwice h => ?_⟩
    · rw [reports_iff_countP, countP_tells_unusedImport, List.count_pos_iff] at h
      rw [countP_tells_unusedImport, ((nodup_importedNames_scanLines t.lines).filter _).count, if_pos h]
    · have hle := count_add_count_le hij hi hj name
      have hline := Line.count_imported_le hne hname line
      have hline' := Line.count_imported_le hne hname line'
      have hpos := List.count_pos_iff.mpr hmem
      have hpos' := List.count_pos_iff.mpr hmem'
      have honce := (hiff.mp h).2
      omega
    · have hle := count_imported_le_count hne hname hline
      have honce := (hiff.mp h).2
      omega
  · rintro ⟨himport, hvariable⟩
    obtain ⟨⟨line', hline', hmem⟩, -⟩ := reports_unusedImport_iff.mp himport
    have h := reports_unusedVariable_iff.mp hvariable
    obtain ⟨line, hline, hassigns⟩ := h.assigned
    have hassigned := Line.assignedName?_eq_some_iff.mpr ⟨h.isName, hassigns⟩
    have htwo := two_le_count_of_assigned_of_imported h.isName.ne_nil h.isName.isWord hline hassigned
      hline' hmem
    have honce := h.once
    omega

/-- One of two imported names stands in the text again. -/
theorem unusedImport_findings_os :
    (∃ line ∈ lines "import os, sys\nprint(sys)\n".toList, "os".toList ∈ Line.imported line) ∧
      Reports "import os, sys\nprint(sys)\n".toList (.unusedImport "os".toList) ∧
      ¬ Reports "import os, sys\nprint(sys)\n".toList (.unusedImport "sys".toList) := by
  have hos := ((unusedImport_findings "import os, sys\nprint(sys)\n".toList).1 "os".toList
    (by decide) (List.all_eq_true.mp (by decide))).1
  have hsys := ((unusedImport_findings "import os, sys\nprint(sys)\n".toList).1 "sys".toList
    (by decide) (List.all_eq_true.mp (by decide))).1
  exact ⟨by decide, hos.mpr (by decide), fun h => absurd (hsys.mp h).2 (by decide)⟩

end CodeSmell
