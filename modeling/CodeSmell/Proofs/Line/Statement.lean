import CodeSmell.Proofs.Text.Words

/-!
# Statements and the words of their lines

* `assignedName?_eq_some_iff` : a line assigns to a name exactly when it begins with the name and a single
  `=`, blanks left aside;
* `words_of_assignedName?` : the name is then the first word of the line, and `words_of_definedName?` : that of
  a definition is its keyword;
* `imported` : the names that a line imports;
* `count_importItems_le` : every name of an import clause that is made of word characters is a word of
  the clause, as often as it is named;
* `words_of_importedNames?` : an imported name is a word of the line behind the first one.
-/

namespace CodeSmell.Line

open Text

/-! ## Assignments -/

/-- An ASCII letter or an underscore, and word characters after it. -/
def IsVariableName (name : Text) : Prop :=
  ∃ c cs, name = c :: cs ∧ (isAsciiLetter c || c == '_') = true ∧ ∀ d ∈ cs, isWord d = true

/-- The line begins with `name` and an `=` that no other `=` follows, with blanks before and between. -/
def AssignsTo (line name : Text) : Prop :=
  ∃ front gap rest, line = front ++ (name ++ (gap ++ '=' :: rest)) ∧ (∀ c ∈ front, isSpace c = true) ∧
    (∀ c ∈ gap, isSpace c = true) ∧ rest.head? ≠ some '='

theorem IsVariableName.ne_nil {name : Text} (h : IsVariableName name) : name ≠ [] := by
  obtain ⟨c, cs, rfl, -⟩ := h
  exact List.cons_ne_nil c cs

theorem IsVariableName.isWord {name : Text} (h : IsVariableName name) :
    ∀ c ∈ name, isWord c = true := by
  obtain ⟨c, cs, rfl, hc, hcs⟩ := h
  intro d hd
  rcases List.mem_cons.mp hd with rfl | hd
  · exact isWord_of_letter_or_underscore hc
  · exact hcs d hd

theorem startsWithAssign_iff {t : Text} :
    startsWithAssign t = true ↔ ∃ rest, t = '=' :: rest ∧ rest.head? ≠ some '=' := by
  unfold startsWithAssign
  split
  · simp
  · rename_i rest hrest
    have hhead : rest.head? ≠ some '=' := fun h => by
      obtain ⟨u, rfl⟩ := List.head?_eq_some_iff.mp h
      exact hrest u rfl
    simp [hhead]
  · rename_i hnot
    simpa using fun rest he => absurd he (hnot rest)

/-- The name stands at the start of the body, up to a place where no word goes on. -/
theorem leadingName?_eq_some_iff {t name rest : Text} :
    leadingName? t = some (name, rest) ↔
      IsVariableName name ∧ t = name ++ rest ∧ startsInWord rest = false := by
  cases t with
  | nil =>
    simp only [leadingName?, reduceCtorEq, false_iff, not_and]
    intro hname happ
    exact absurd (List.append_eq_nil_iff.mp happ.symm).1 hname.ne_nil
  | cons c t =>
    rw [leadingName?]
    constructor
    · intro h
      split_ifs at h with hc
      cases h
      refine ⟨⟨c, _, rfl, hc, fun d hd => List.mem_takeWhile_imp hd⟩, ?_, ?_⟩
      · rw [List.cons_append, List.takeWhile_append_dropWhile]
      · exact startsInWord_dropWhile (fun _ h => h) t
    · rintro ⟨⟨d, ds, rfl, hd, hds⟩, happ, hrest⟩
      rw [List.cons_append, List.cons_eq_cons] at happ
      obtain ⟨rfl, rfl⟩ := happ
      rw [if_pos hd, takeWhile_run hds hrest, dropWhile_run hds hrest]

theorem body_append {front t : Text} (hfront : ∀ c ∈ front, isSpace c = true)
    (ht : startsInWord t = true) : body (front ++ t) = t := by
  rw [body, List.dropWhile_append_of_pos hfront]
  cases t with
  | nil => rfl
  | cons c t => exact List.dropWhile_cons_of_neg (by simp [isSpace_of_isWord ht])

theorem assignedName?_eq_some_iff {line name : Text} :
    assignedName? line = some name ↔ IsVariableName name ∧ AssignsTo line name := by
  have hopen : assignedName? line = some name ↔ ∃ rest, leadingName? (body line) = some (name, rest) ∧
      startsWithAssign (rest.dropWhile isSpace) = true := by
    simp only [assignedName?, Option.bind_eq_bind, Option.bind_eq_some_iff, Prod.exists]
    constructor
    · rintro ⟨name', rest, hlead, hif⟩
      split_ifs at hif with hassign
      cases hif
      exact ⟨rest, hlead, hassign⟩
    · rintro ⟨rest, hlead, hassign⟩
      exact ⟨name, rest, hlead, if_pos hassign⟩
  rw [hopen]
  constructor
  · rintro ⟨rest, hlead, hassign⟩
    obtain ⟨hname, hbody, -⟩ := leadingName?_eq_some_iff.mp hlead
    obtain ⟨tail, htail, hhead⟩ := startsWithAssign_iff.mp hassign
    refine ⟨hname, line.takeWhile isSpace, rest.takeWhile isSpace, tail, ?_, ?_, ?_, hhead⟩
    · rw [← htail, List.takeWhile_append_dropWhile, ← hbody, body, List.takeWhile_append_dropWhile]
    · exact fun c hc => List.mem_takeWhile_imp hc
    · exact fun c hc => List.mem_takeWhile_imp hc
  · rintro ⟨hname, front, gap, rest, rfl, hfront, hgap, hrest⟩
    have hbody : body (front ++ (name ++ (gap ++ '=' :: rest))) = name ++ (gap ++ '=' :: rest) := by
      obtain ⟨c, cs, rfl, hc, -⟩ := hname
      exact body_append hfront (isWord_of_letter_or_underscore hc)
    refine ⟨gap ++ '=' :: rest, leadingName?_eq_some_iff.mpr ⟨hname, hbody, ?_⟩, ?_⟩
    · exact startsInWord_eq_false_of_blanks hgap _ (show isWord '=' = false by decide)
    · rw [List.dropWhile_append_of_pos hgap, List.dropWhile_cons_of_neg (by decide)]
      exact startsWithAssign_iff.mpr ⟨rest, rfl, hrest⟩

theorem words_body (line : Text) : words (body line) = words line := by
  have hindent : ∀ c ∈ line.takeWhile isSpace, isSpace c = true :=
    fun c hc => List.mem_takeWhile_imp hc
  conv_rhs => rw [← List.takeWhile_append_dropWhile (p := isSpace) (l := line)]
  rw [words_append_of_blanks hindent, body]

theorem words_of_assignedName? {line name : Text} (h : assignedName? line = some name) :
    ∃ ws, words line = name :: ws := by
  obtain ⟨hname, front, gap, rest, rfl, hfront, hgap, -⟩ := assignedName?_eq_some_iff.mp h
  have hgapStart : startsInWord (gap ++ '=' :: rest) = false :=
    startsInWord_eq_false_of_blanks hgap _ (show isWord '=' = false by decide)
  exact ⟨words (gap ++ '=' :: rest), by
    rw [words_append_of_blanks hfront, words_run hname.ne_nil hname.isWord hgapStart]⟩

/-! ## Import clauses -/

theorem beforeAliasFrom_eq (seen t : Text) :
    ∃ u, beforeAliasFrom seen t = seen.reverse ++ u ∧ IsFront u t := by
  induction t generalizing seen with
  | nil => exact ⟨[], by rw [beforeAliasFrom, List.append_nil], .refl []⟩
  | cons c t ih =>
    rw [beforeAliasFrom]
    split_ifs with hc
    · have hspace : isSpace c = true := (Bool.and_eq_true_iff.mp hc).1
      exact ⟨[], (List.append_nil _).symm, c :: t, rfl, isWord_of_isSpace hspace⟩
    · obtain ⟨u, hu, rest, rfl, hrest⟩ := ih (c :: seen)
      exact ⟨c :: u, by rw [hu]; simp, rest, rfl, hrest⟩

/-- What comes before an alias ends where a blank stands. -/
theorem isFront_beforeAlias (item : Text) : IsFront (beforeAlias item) item := by
  obtain ⟨u, hu, hfront⟩ := beforeAliasFrom_eq [] item
  rw [beforeAlias, hu]
  exact hfront

/-- Items that are `name`, each of which is a word of its part, are no more than these words. -/
theorem count_map_le_count_flatMap {parts : List Text} {name : Text} {cut : Text → Text}
    (h : ∀ part ∈ parts, cut part = name → name ∈ words part) :
    (parts.map cut).count name ≤ (parts.flatMap words).count name := by
  induction parts with
  | nil => exact Nat.le_refl 0
  | cons part parts ih =>
    have hrest := ih fun p hp => h p (List.mem_cons_of_mem _ hp)
    rw [List.map_cons, List.flatMap_cons, List.count_cons, List.count_append]
    by_cases hcut : cut part = name
    · have hpos := List.count_pos_iff.mpr (h part List.mem_cons_self hcut)
      rw [if_pos (by simp [hcut])]
      omega
    · rw [if_neg (by simpa using hcut)]
      omega

section Items
variable {name : Text} (hne : name ≠ []) (hname : ∀ c ∈ name, isWord c = true)
include hne hname

/-- The names of a clause that are made of word characters are words of it; `cut` may shorten an item
further. -/
theorem count_importItems_le {cut : Text → Text} (hcut : ∀ t, IsFront (cut t) t) (clause : Text) :
    ((importItems clause).map cut).count name ≤ (words clause).count name := by
  have hcomma : isWord ',' = false := by decide
  have hhash : isWord '#' = false := by decide
  have hitems : ((splitOn ',' (strip (before '#' clause))).map
      fun item => cut (beforeAlias (strip item))).count name ≤
      ((splitOn ',' (strip (before '#' clause))).flatMap words).count name := by
    refine count_map_le_count_flatMap fun item _ hitem => ?_
    have hfront := (isFront_beforeAlias (strip item)).trans (hcut _)
    rw [hitem] at hfront
    obtain ⟨ws, hws⟩ := hfront.words_eq hne hname
    rw [← words_strip, hws]
    exact List.mem_cons_self
  rw [words_splitOn hcomma, words_strip] at hitems
  rw [importItems, List.map_map]
  exact hitems.trans ((isFront_before hhash clause).words_sublist.count_le name)

end Items

theorem words_of_afterBlanks? {t rest : Text} (h : afterBlanks? t = some rest) :
    startsInWord t = false ∧ words t = words rest := by
  cases t with
  | nil => cases h
  | cons c t =>
    rw [afterBlanks?] at h
    split_ifs at h with hc
    cases h
    exact ⟨isWord_of_isSpace hc, (words_cons_of_not_isWord (isWord_of_isSpace hc) t).trans
      (words_body t).symm⟩

theorem words_of_importClause? {rest clause : Text} (h : importClause? rest = some clause) :
    startsInWord rest = false ∧ (words clause).Sublist (words rest) := by
  have hblank : rest.takeWhile isSpace ≠ [] → startsInWord rest = false := by
    intro hne
    cases rest with
    | nil => rfl
    | cons c rest =>
      cases hc : isSpace c with
      | true => exact isWord_of_isSpace hc
      | false => exact absurd (List.takeWhile_cons_of_neg (by simp [hc])) hne
  unfold importClause? at h
  dsimp only at h
  split_ifs at h with hblanks hclause htail
  · cases h
    exact ⟨hblank (by simpa using hblanks), List.nil_sublist _⟩
  · cases h
    refine ⟨hblank (by simpa using hblanks), ?_⟩
    have hfront := (isFront_before isWord_feed (rest.dropWhile isSpace)).words_sublist
    rwa [← body, words_body] at hfront

/-- A keyword that begins the body of a line is the first word of the line. -/
theorem words_of_keyword {keyword line rest : Text} (hne : keyword ≠ [])
    (hkeyword : ∀ c ∈ keyword, isWord c = true) (h : after? keyword (body line) = some rest)
    (hrest : startsInWord rest = false) : words line = keyword :: words rest := by
  rw [← words_body, eq_append_of_after? h, words_run hne hkeyword hrest]

theorem words_of_definedName? {keyword : Text} (hne : keyword ≠ [])
    (hkeyword : ∀ c ∈ keyword, isWord c = true) {closers : List Char} {line name : Text}
    (h : definedName? keyword closers line = some name) : ∃ ws, words line = keyword :: ws := by
  simp only [definedName?, Option.bind_eq_bind, Option.bind_eq_some_iff] at h
  obtain ⟨rest, hafter, tail, hblanks, -⟩ := h
  exact ⟨words rest, words_of_keyword hne hkeyword hafter (words_of_afterBlanks? hblanks).1⟩

theorem words_of_plainImport? {line clause : Text} (h : plainImport? line = some clause) :
    ∃ ws, words line = "import".toList :: ws ∧ (words clause).Sublist ws := by
  simp only [plainImport?, Option.bind_eq_bind, Option.bind_eq_some_iff] at h
  obtain ⟨rest, hafter, hclause⟩ := h
  obtain ⟨hrest, hwords⟩ := words_of_importClause? hclause
  exact ⟨words rest, words_of_keyword (by decide) (List.all_eq_true.mp (by decide)) hafter hrest, hwords⟩

theorem words_of_fromImport? {line clause : Text} (h : fromImport? line = some clause) :
    ∃ ws, words line = "from".toList :: ws ∧ (words clause).Sublist ws := by
  simp only [fromImport?, Option.bind_eq_bind, Option.bind_eq_some_iff] at h
  obtain ⟨tail, hafter, rest, hblanks, h⟩ := h
  split_ifs at h with hmodule
  simp only [Option.bind_eq_some_iff] at h
  obtain ⟨u, hu, v, hv, hclause⟩ := h
  obtain ⟨htail, htailWords⟩ := words_of_afterBlanks? hblanks
  obtain ⟨hback, hbackWords⟩ := words_of_afterBlanks? hu
  obtain ⟨hvStart, hwords⟩ := words_of_importClause? hclause
  refine ⟨words tail, words_of_keyword (by decide) (List.all_eq_true.mp (by decide)) hafter htail, ?_⟩
  -- the words behind the module, the keyword `import` and what follows it
  have hrest : words rest =
      words (rest.takeWhile isModuleChar) ++ "import".toList :: words v := by
    conv_lhs => rw [← List.takeWhile_append_dropWhile (p := isModuleChar) (l := rest)]
    rw [words_append _ hback, hbackWords, eq_append_of_after? hv,
      words_run (by decide) (List.all_eq_true.mp (by decide)) hvStart]
  rw [htailWords, hrest]
  exact (hwords.cons _).trans (List.sublist_append_right _ _)

/-! ## Imported names -/

def imported (line : Text) : List Text :=
  (importedNames? line).getD []

/-- The first word of an import statement is its keyword, and the names that it imports are words after
that one. -/
theorem words_of_importedNames? {line : Text} {names : List Text}
    (h : importedNames? line = some names) :
    ∃ first ws, words line = first :: ws ∧ ∀ name : Text, name ≠ [] → (∀ c ∈ name, isWord c = true) →
      names.count name ≤ ws.count name := by
  unfold importedNames? at h
  split at h
  · rename_i clause hclause
    cases h
    obtain ⟨ws, hline, hwords⟩ := words_of_fromImport? hclause
    refine ⟨_, ws, hline, fun name hne hname => ?_⟩
    have hitems := count_importItems_le hne hname IsFront.refl clause
    rw [List.map_id'] at hitems
    exact hitems.trans (hwords.count_le name)
  · obtain ⟨clause, hclause, rfl⟩ := Option.map_eq_some_iff.mp h
    obtain ⟨ws, hline, hwords⟩ := words_of_plainImport? hclause
    have hdot : isWord '.' = false := by decide
    refine ⟨_, ws, hline, fun name hne hname => ?_⟩
    exact (count_importItems_le hne hname (isFront_before hdot) clause).trans (hwords.count_le name)

section Names
variable {name : Text} (hne : name ≠ []) (hname : ∀ c ∈ name, isWord c = true) (line : Text)
include hne hname

theorem count_imported_le : (imported line).count name ≤ (words line).count name := by
  cases h : importedNames? line with
  | none => simp [imported, h]
  | some names =>
    obtain ⟨first, ws, hline, hcount⟩ := words_of_importedNames? h
    rw [imported, h, Option.getD_some, hline]
    exact (hcount name hne hname).trans (List.count_le_count_cons)

/-- On a line that assigns to a name, imports of the name are further words. -/
theorem count_imported_lt (h : assignedName? line = some name) :
    (imported line).count name < (words line).count name := by
  obtain ⟨ws, hws⟩ := words_of_assignedName? h
  cases himp : importedNames? line with
  | none => simp [imported, himp, hws]
  | some names =>
    obtain ⟨first, ws', hline, hcount⟩ := words_of_importedNames? himp
    obtain ⟨rfl, rfl⟩ := List.cons_eq_cons.mp (hws.symm.trans hline)
    have := hcount name hne hname
    rw [imported, himp, Option.getD_some, hline, List.count_cons_self]
    omega

end Names

end CodeSmell.Line
