import CodeSmell.Proofs.Line.Imports
import CodeSmell.Proofs.Scan.State

/-!
# Comments at the end of a line

The rules that read the statement of a line, and the readers of assignments and imports, do not see a comment
behind it. The character `#` is no blank, in no word and in no keyword, so it ends all that a reader takes
off the front of a line.

* `takeWhile_append_stop`, `dropWhile_append_stop` : a run that a character ends;
* `*_append_comment` : what each reader makes of a line with a comment behind it;
* `ReadsStatement rule` : the rule reports missing colons, bare `except` clauses or shadowed builtins;
  `ReadsStatement.append_comment` : such a rule finds the same with the comment and without it;
* `statementReports n line` : the rules and messages of what these rules report;
* `filter_names_append_comment` : the names of an import clause, the empty ones left aside. A comment may make a
  clause of an import that has none, and then the clause has no names;
* `trailing_comment_invisible` : findings, assigned names and imported names stay.
-/

namespace CodeSmell

open Text

namespace Text

section Stop
variable {p : Char → Bool} {d : Char} (hd : p d = false) (t u : Text)
include hd

theorem takeWhile_append_stop : (t ++ d :: u).takeWhile p = t.takeWhile p := by
  induction t with
  | nil => simp [hd]
  | cons c t ih =>
    rw [List.cons_append, List.takeWhile_cons, List.takeWhile_cons, ih]

theorem dropWhile_append_stop : (t ++ d :: u).dropWhile p = t.dropWhile p ++ d :: u := by
  induction t with
  | nil => simp [hd]
  | cons c t ih =>
    rw [List.cons_append, List.dropWhile_cons, List.dropWhile_cons, ih]
    split_ifs <;> rfl

end Stop

theorem isSpace_hash : isSpace '#' = false := by decide

theorem isWord_hash : isWord '#' = false := by decide

theorem before_of_notMem {c : Char} {t : Text} (h : c ∉ t) : before c t = t := by
  unfold before
  rw [List.takeWhile_eq_self_iff]
  intro d hd
  exact bne_iff_ne.mpr fun he => h (he ▸ hd)

theorem before_append_cons (c : Char) (t u : Text) : before c (t ++ c :: u) = before c t := by
  unfold before
  exact takeWhile_append_stop (by simp) t u

end Text

namespace Line

variable (line comment : Text)

/-! ## Parts of a line -/

theorem body_append_comment : body (line ++ '#' :: comment) = body line ++ '#' :: comment :=
  dropWhile_append_stop isSpace_hash line comment

/-- What follows a keyword at the start of a line is a part of the line. -/
theorem subset_of_after?_body {line keyword rest : Text} (h : after? keyword (body line) = some rest) :
    rest ⊆ line := by
  intro c hc
  have hbody : c ∈ body line := by
    rw [eq_append_of_after? h]
    exact List.mem_append_right _ hc
  exact List.dropWhile_subset _ hbody

theorem firstWord_append_comment : firstWord (line ++ '#' :: comment) = firstWord line :=
  takeWhile_append_stop isWord_hash line comment

theorem head?_append_comment_any {p : Char → Bool} (hp : p '#' = false) :
    (line ++ '#' :: comment).head?.any p = line.head?.any p := by
  cases line with
  | nil => exact hp
  | cons c line => rfl

theorem afterBlanks?_append_comment :
    afterBlanks? (line ++ '#' :: comment) = (afterBlanks? line).map (· ++ '#' :: comment) := by
  cases line with
  | nil => rfl
  | cons c line =>
    rw [List.cons_append, afterBlanks?, afterBlanks?, dropWhile_append_stop isSpace_hash]
    split_ifs <;> rfl

theorem leadingName?_append_comment :
    leadingName? (line ++ '#' :: comment) = (leadingName? line).map (Prod.map id (· ++ '#' :: comment)) := by
  cases line with
  | nil => rfl
  | cons c line =>
    rw [List.cons_append, leadingName?, leadingName?, takeWhile_append_stop isWord_hash,
      dropWhile_append_stop isWord_hash]
    split_ifs <;> rfl

theorem startsWithAssign_append_comment :
    startsWithAssign (line ++ '#' :: comment) = startsWithAssign line := by
  rw [Bool.eq_iff_iff, startsWithAssign_iff, startsWithAssign_iff]
  cases line with
  | nil => simp
  | cons c line =>
    cases line with
    | nil => simp
    | cons d line => simp

/-! ## Names -/

theorem assignedName?_append_comment : assignedName? (line ++ '#' :: comment) = assignedName? line := by
  unfold assignedName?
  rw [body_append_comment, leadingName?_append_comment]
  cases leadingName? (body line) with
  | none => rfl
  | some found =>
    simp only [Option.map_some, Option.bind_eq_bind, Option.bind_some, Prod.map, id_eq,
      dropWhile_append_stop isSpace_hash, startsWithAssign_append_comment]

theorem definedName?_append_comment {keyword : Text} (hkeyword : '#' ∉ keyword) {closers : List Char}
    (hclosers : closers.contains '#' = false) :
    definedName? keyword closers (line ++ '#' :: comment) = definedName? keyword closers line := by
  unfold definedName?
  rw [body_append_comment, after?_append_cons hkeyword]
  cases after? keyword (body line) with
  | none => rfl
  | some rest =>
    simp only [Option.map_some, Option.bind_eq_bind, Option.bind_some, afterBlanks?_append_comment]
    cases afterBlanks? rest with
    | none => rfl
    | some rest =>
      simp only [Option.map_some, Option.bind_some, leadingName?_append_comment]
      cases leadingName? rest with
      | none => rfl
      | some found =>
        simp only [Option.map_some, Option.bind_some, Prod.map, id_eq, dropWhile_append_stop isSpace_hash,
          head?_append_comment_any _ _ hclosers]

/-! ## Conditions -/

variable {line comment}

/-- A line that begins a block does not begin a comment, so only what stands before the comment matters. -/
theorem lacksColon_append_comment (hhash : '#' ∉ line) :
    (isHeader (line ++ '#' :: comment) && lacksColon (line ++ '#' :: comment)) =
      (isHeader line && lacksColon line) := by
  have hheader : isHeader (line ++ '#' :: comment) = isHeader line := by
    rw [isHeader, isHeader, body_append_comment, firstWord_append_comment]
  cases hbody : body line with
  | nil =>
    have hnone : isHeader line = false := by
      rw [isHeader, hbody]
      decide
    rw [hheader, hnone, Bool.false_and, Bool.false_and]
  | cons c rest =>
    have hcomment : isComment (line ++ '#' :: comment) = isComment line := by
      rw [isComment, isComment, body_append_comment, hbody]
      rfl
    rw [hheader, lacksColon, lacksColon, hcomment, before_append_cons, before_of_notMem hhash]

theorem onlyComment_append_comment {t : Text} (hhash : '#' ∉ t) (hcomment : '\n' ∉ comment) :
    onlyComment (t ++ '#' :: comment) = onlyComment t := by
  cases t with
  | nil =>
    have hchomp : '\n' ∉ chomp ('#' :: comment) := by
      intro h
      rcases List.mem_cons.mp (dropFinal_subset '\n' _ h) with h | h
      · exact absurd h (by decide)
      · exact hcomment h
    simp [onlyComment, hchomp]
  | cons c t =>
    have hc : (c == '#') = false := beq_eq_false_iff_ne.mpr fun he => hhash (he ▸ List.mem_cons_self)
    rw [List.cons_append, onlyComment, onlyComment, hc, Bool.false_and, Bool.false_and]

theorem isBareExcept_append_comment (hhash : '#' ∉ line) (hcomment : '\n' ∉ comment) :
    isBareExcept (line ++ '#' :: comment) = isBareExcept line := by
  unfold isBareExcept
  rw [body_append_comment, after?_append_cons (by decide)]
  cases hafter : after? "except".toList (body line) with
  | none => rfl
  | some rest =>
    simp only [Option.map_some, dropWhile_append_stop isSpace_hash]
    cases hrest : rest.dropWhile isSpace with
    | nil => rfl
    | cons c tail =>
      -- what is left of the line is a part of it, and holds no `#`
      have hnot : '#' ∉ tail.dropWhile isSpace := by
        intro h
        have htail : '#' ∈ rest.dropWhile isSpace := hrest ▸ List.mem_cons_of_mem c (List.dropWhile_subset _ h)
        exact hhash (subset_of_after?_body hafter (List.dropWhile_subset _ htail))
      by_cases hc : c = ':'
      · subst hc
        simp only [List.cons_append, dropWhile_append_stop isSpace_hash, onlyComment_append_comment hnot hcomment]
      · simp [hc]

/-! ## Rules -/

def statementRules : List Rule :=
  [.missingColon, .bareExcept, .shadowedBuiltin]

/-- The rule reports missing colons, bare `except` clauses or shadowed builtins. -/
def ReadsStatement (rule : Text → Option Smell) : Prop :=
  ∃ line m, rule line = some m ∧ m.rule ∈ statementRules

theorem not_readsStatement_of_forall {rule : Text → Option Smell} {r : Rule}
    (hr : r ∉ statementRules) (h : ∀ line m, rule line = some m → m.rule = r) : ¬ ReadsStatement rule := by
  rintro ⟨line, m, hm, hmem⟩
  exact hr (h line m hm ▸ hmem)

theorem ReadsStatement.append_comment {rule : Text → Option Smell} (hmem : rule ∈ rules)
    (hrule : ReadsStatement rule) (hhash : '#' ∉ line) (hcomment : '\n' ∉ comment) :
    rule (line ++ '#' :: comment) = rule line := by
  have hother : ∀ {condition : Text → Bool} {m : Smell}, m.rule ∉ statementRules →
      ¬ ReadsStatement (smellIf condition m) :=
    fun hm => not_readsStatement_of_forall hm fun x m' h => by rw [smellIf_eq_some h]
  simp only [rules, List.mem_cons, List.not_mem_nil, or_false] at hmem
  rcases hmem with rfl | rfl | rfl | rfl | rfl | rfl | rfl | rfl | rfl | rfl | rfl
  · exact absurd hrule (hother (by decide))
  · exact absurd hrule (hother (by decide))
  · rw [smellIf, smellIf, lacksColon_append_comment hhash]
  · rw [smellIf, smellIf, isBareExcept_append_comment hhash hcomment]
  · exact absurd hrule (hother (by decide))
  · exact absurd hrule (hother (by decide))
  · exact absurd hrule (hother (by decide))
  · refine absurd hrule (not_readsStatement_of_forall (r := .longLine) (by decide) fun x m h => ?_)
    rw [smellIf_eq_some h]
    rfl
  · dsimp only
    rw [assignedName?_append_comment]
  · dsimp only
    rw [definedName?_append_comment _ _ (by decide) (by decide)]
  · dsimp only
    rw [definedName?_append_comment _ _ (by decide) (by decide)]

/-- What a rule that reads no statement finds is of other rules. -/
theorem filter_of_not_readsStatement {rule : Text → Option Smell} (h : ¬ ReadsStatement rule) (line : Text) :
    (rule line).filter (·.rule ∈ statementRules) = none := by
  rw [Option.filter_eq_none_iff]
  intro m hm hmem
  exact h ⟨line, m, hm, of_decide_eq_true hmem⟩

theorem filter_rules_append_comment (hhash : '#' ∉ line) (hcomment : '\n' ∉ comment) :
    (rules.filterMap (· (line ++ '#' :: comment))).filter (·.rule ∈ statementRules) =
      (rules.filterMap (· line)).filter (·.rule ∈ statementRules) := by
  rw [List.filter_filterMap, List.filter_filterMap]
  refine List.filterMap_congr fun rule hmem => ?_
  by_cases hrule : ReadsStatement rule
  · rw [hrule.append_comment hmem hhash hcomment]
  · rw [filter_of_not_readsStatement hrule, filter_of_not_readsStatement hrule]

/-- The rules and messages of the findings about the statement of a line. -/
def statementReports (n : Int) (line : Text) : List (Text × Text) :=
  ((findings n line).filter (·.rule ∈ statementRules.map Rule.name)).map fun f => (f.rule, f.message)

theorem statementReports_eq (n : Int) (line : Text) :
    statementReports n line =
      ((rules.filterMap (· line)).filter (·.rule ∈ statementRules)).map fun m => (m.rule.name, m.message) := by
  have hrule : ∀ m : Smell, (m.onLine n line).rule ∈ statementRules.map Rule.name ↔ m.rule ∈ statementRules :=
    fun m => List.mem_map_of_injective Rule.name_injective
  unfold statementReports findings
  rw [List.filter_map, List.map_map]
  congr 1
  exact List.filter_congr fun m _ => decide_eq_decide.mpr (hrule m)

/-! ## Imports -/

theorem importItems_append_comment {clause : Text} (hhash : '#' ∉ clause) :
    importItems (clause ++ '#' :: comment) = importItems clause := by
  rw [importItems, importItems, before_append_cons, before_of_notMem hhash]

/-- The names of an import clause, if there is one, each cut by `cut`. -/
def clauseNames (cut : Text → Text) (clause? : Option Text) : List Text :=
  (clause?.elim [] importItems).map cut

/-- Without a clause, or with an empty one, there are no names; a comment in its place has none either. -/
theorem filter_names_append_comment {cut : Text → Text} (hcut : cut [] = []) {t : Text} (hhash : '#' ∉ t)
    (hfeed : '\n' ∉ t) (hcomment : '\n' ∉ comment) :
    (clauseNames cut (importClause? (t ++ '#' :: comment))).filter (· ≠ []) =
      (clauseNames cut (importClause? t)).filter (· ≠ []) := by
  have hitems : importItems [] = [[]] := by decide
  have hclause : '#' ∉ t.dropWhile isSpace := fun h => hhash (List.dropWhile_subset _ h)
  have hline : '\n' ∉ t.dropWhile isSpace ++ '#' :: comment := by
    rw [List.mem_append, List.mem_cons, not_or, not_or]
    exact ⟨fun h => hfeed (List.dropWhile_subset _ h), by decide, hcomment⟩
  unfold importClause?
  dsimp only
  rw [takeWhile_append_stop isSpace_hash, dropWhile_append_stop isSpace_hash]
  by_cases hblanks : (t.takeWhile isSpace).isEmpty = true
  · rw [if_pos hblanks, if_pos hblanks]
  · have hsome : (t.dropWhile isSpace ++ '#' :: comment).isEmpty = false := by simp
    rw [if_neg hblanks, if_neg hblanks, hsome, if_neg Bool.false_ne_true, before_of_notMem hline]
    unfold clauseNames
    rw [Option.elim_some, importItems_append_comment hclause]
    cases hrest : t.dropWhile isSpace with
    | nil =>
      rw [List.isEmpty_nil, if_pos rfl, hitems]
      split_ifs <;> simp [hitems, hcut]
    | cons c rest =>
      have hkeep : '\n' ∉ c :: rest := fun h => hline (hrest ▸ List.mem_append_left _ h)
      rw [List.isEmpty_cons, if_neg Bool.false_ne_true, before_of_notMem hkeep, Option.elim_some]

theorem afterFrom?_append_comment :
    afterFrom? (line ++ '#' :: comment) = (afterFrom? line).map (· ++ '#' :: comment) := by
  have hhash : isModuleChar '#' = false := by decide
  unfold afterFrom?
  rw [body_append_comment, after?_append_cons (by decide)]
  cases after? "from".toList (body line) with
  | none => rfl
  | some rest =>
    simp only [Option.map_some, Option.bind_eq_bind, Option.bind_some, afterBlanks?_append_comment]
    cases afterBlanks? rest with
    | none => rfl
    | some rest =>
      simp only [Option.map_some, Option.bind_some, takeWhile_append_stop hhash, dropWhile_append_stop hhash,
        afterBlanks?_append_comment]
      split_ifs
      · rfl
      · cases afterBlanks? (rest.dropWhile isModuleChar) with
        | none => rfl
        | some rest => exact after?_append_cons (by decide) rest comment

theorem subset_of_afterFrom? {t : Text} (h : afterFrom? line = some t) : t ⊆ line := by
  obtain ⟨front, gap, path, gap', rfl, -⟩ := afterFrom?_eq_some_iff.mp h
  intro c hc
  simp [hc]

/-- A line that begins with `from` does not begin with `import`. -/
theorem after?_import_of_afterFrom? {t : Text} (h : afterFrom? line = some t) :
    after? "import".toList (body line) = none := by
  obtain ⟨rest, -, hbody, -⟩ := afterFrom?_eq_some_iff_steps.mp h
  rw [hbody]
  rfl

/-- The names of a line that begins with `from m import`, or else of one that begins with `import`. -/
theorem imported_eq (line : Text) :
    imported line =
      match afterFrom? line with
      | some t => clauseNames id (importClause? t)
      | none => clauseNames (before '.') ((after? "import".toList (body line)).bind importClause?) := by
  unfold imported importedNames? plainImport? clauseNames
  rw [fromImport?_eq_bind]
  cases hfrom : afterFrom? line with
  | none =>
    dsimp only [Option.bind_none]
    rw [Option.bind_eq_bind]
    cases (after? "import".toList (body line)).bind importClause? <;> rfl
  | some t =>
    dsimp only [Option.bind_some]
    cases importClause? t with
    | none =>
      rw [after?_import_of_afterFrom? hfrom]
      rfl
    | some clause => simp

theorem filter_imported_append_comment (hhash : '#' ∉ line) (hfeed : '\n' ∉ line) (hcomment : '\n' ∉ comment) :
    (imported (line ++ '#' :: comment)).filter (· ≠ []) = (imported line).filter (· ≠ []) := by
  rw [imported_eq, imported_eq, afterFrom?_append_comment, body_append_comment, after?_append_cons (by decide)]
  cases hfrom : afterFrom? line with
  | some t =>
    have hpart := subset_of_afterFrom? hfrom
    exact filter_names_append_comment rfl (fun h => hhash (hpart h)) (fun h => hfeed (hpart h)) hcomment
  | none =>
    dsimp only [Option.map_none]
    cases hafter : after? "import".toList (body line) with
    | none => rfl
    | some t =>
      have hpart := subset_of_after?_body hafter
      exact filter_names_append_comment rfl (fun h => hhash (hpart h)) (fun h => hfeed (hpart h)) hcomment

end Line

/-! ## What a scan records -/

open Line ScanState

/-- **A comment behind a statement is not seen.** With a comment and without it, the rules for missing colons, bare
`except` clauses and shadowed builtins find the same smells on a line. The line assigns to the same name, or to
none, and imports the same names in the same order. -/
theorem trailing_comment_invisible (line comment : Text) (hhash : '#' ∉ line) (hfeed : '\n' ∉ line)
    (hcomment : '\n' ∉ comment) :
    (∀ rule ∈ rules, ReadsStatement rule → rule (line ++ '#' :: comment) = rule line) ∧
    (∀ n : Int, statementReports n (line ++ '#' :: comment) = statementReports n line) ∧
    (∀ (s : ScanState) (n : Int),
      s.recordAssignment n (line ++ '#' :: comment) = s.recordAssignment n line) ∧
    (imported (line ++ '#' :: comment)).filter (· ≠ []) = (imported line).filter (· ≠ []) ∧
    ∀ (s : ScanState) (n : Int),
      (s.recordImports n (line ++ '#' :: comment)).importedNames = (s.recordImports n line).importedNames := by
  have hnames := filter_imported_append_comment hhash hfeed hcomment
  refine ⟨fun rule hmem hrule => hrule.append_comment hmem hhash hcomment,
    fun n => ?_, fun s n => ?_, hnames, fun s n => ?_⟩
  · rw [statementReports_eq, statementReports_eq, filter_rules_append_comment hhash hcomment]
  · unfold recordAssignment
    rw [assignedName?_append_comment]
  · rw [importedNames_recordImports, importedNames_recordImports, ← foldl_addName_filter, hnames,
      foldl_addName_filter]

/-- An import that has a clause only with its comment. -/
theorem trailing_comment_invisible_import :
    importedNames? "import ".toList = none ∧ importedNames? "import #x".toList = some [[]] ∧
      ∀ (s : ScanState) (n : Int),
        (s.recordImports n "import #x".toList).importedNames = (s.recordImports n "import ".toList).importedNames :=
  ⟨by decide, by decide, (trailing_comment_invisible "import ".toList "x".toList (by decide) (by decide)
    (by decide)).2.2.2.2⟩

end CodeSmell
