import CodeSmell.Proofs.Line.Comments
import CodeSmell.Proofs.Scan.Sound
import Mathlib.Data.Bool.AllAny

/-!
# Import statements as they are written

An import statement is a list of items, each a name with or without an alias, and may be written with any
blanks. Reading it gives back the names, whatever they are: an item may itself be named `as` or `import`.

* `Blanks`, `Gap`, `ItemWord` : blanks within a line, at least one of them, and what an item is made of;
* `Item`, `NextItem`, `Origin`, `ImportStatement` : the parts of a statement with their blanks, and
  `ImportStatement.print` : the line that they make;
* `IsClean t` : no comma, comment or line feed is in `t`; `IsTrimmed t` : no blank is at its ends;
* `beforeAlias_print` : an item without its alias is its name;
* `map_splitOn_print` : the commas of a statement cut it into its items;
* `importedNames?_print` : the names of a printed statement;
* `numbersAt log x` : the line numbers that a log of imports has for a statement; `numbersAt_addImportLine`;
* `recordImports_print` : a scan of a printed statement records its names and its line.
-/

namespace CodeSmell

open Text

namespace Line

/-! ## Statements -/

/-- Blanks within a line. -/
structure Blanks where
  text : Text
  blank : ∀ c ∈ text, isSpace c = true
  inLine : '\n' ∉ text

structure Gap extends Blanks where
  ne_nil : text ≠ []

/-- A name or an alias: characters other than blanks, commas and `#`. -/
structure ItemWord where
  text : Text
  ne_nil : text ≠ []
  solid : ∀ c ∈ text, isSpace c = false ∧ c ≠ ',' ∧ c ≠ '#'

/-- `as` and an alias, with the blanks around the keyword. -/
structure Renaming where
  left : Gap
  right : Gap
  word : ItemWord

structure Item where
  name : ItemWord
  called : Option Renaming

/-- A comma with the blanks around it, and the item that it introduces. -/
structure NextItem where
  left : Blanks
  right : Blanks
  item : Item

/-- What follows `from`: a module path between blanks. -/
structure Origin where
  left : Gap
  path : Text
  right : Gap
  path_ne_nil : path ≠ []
  path_chars : ∀ c ∈ path, isModuleChar c = true

structure Comment where
  text : Text
  inLine : '\n' ∉ text

/-- An import statement: `import …`, or `from m import …` if it has an origin. -/
structure ImportStatement where
  front : Blanks
  origin : Option Origin
  gap : Gap
  first : Item
  others : List NextItem
  back : Blanks
  comment : Option Comment

def Renaming.print (r : Renaming) : Text :=
  r.left.text ++ ("as".toList ++ (r.right.text ++ r.word.text))

def Item.print (i : Item) : Text :=
  i.name.text ++ i.called.elim [] Renaming.print

def NextItem.print (n : NextItem) : Text :=
  n.left.text ++ ',' :: (n.right.text ++ n.item.print)

def Origin.print (o : Origin) : Text :=
  "from".toList ++ (o.left.text ++ (o.path ++ o.right.text))

namespace ImportStatement
variable (i : ImportStatement)

def clause : Text :=
  i.first.print ++ i.others.flatMap NextItem.print

/-- What stands behind the items: blanks, and the comment if there is one. -/
def ending : Text :=
  i.back.text ++ i.comment.elim [] fun c => '#' :: c.text

def print : Text :=
  i.front.text ++ (i.origin.elim [] Origin.print ++
    ("import".toList ++ (i.gap.text ++ (i.clause ++ i.ending))))

def items : List Item :=
  i.first :: i.others.map NextItem.item

/-- The names that the statement imports, empty ones included: those of its items, and without an origin only
what stands before their first dot. -/
def names : List Text :=
  match i.origin with
  | some _ => i.items.map (·.name.text)
  | none => i.items.map fun item => before '.' item.name.text

end ImportStatement

/-! ## Characters -/

/-- The text has no comma, begins no comment and stays within its line. -/
def IsClean (t : Text) : Prop :=
  ∀ c ∈ t, c ≠ ',' ∧ c ≠ '#' ∧ c ≠ '\n'

theorem IsClean.append {t u : Text} (ht : IsClean t) (hu : IsClean u) : IsClean (t ++ u) := by
  intro c hc
  rcases List.mem_append.mp hc with hc | hc
  · exact ht c hc
  · exact hu c hc

theorem Blanks.isClean (b : Blanks) : IsClean b.text := by
  intro c hc
  have hspace := b.blank c hc
  refine ⟨?_, ?_, fun h => b.inLine (h ▸ hc)⟩
  · rintro rfl
    exact absurd hspace (by decide)
  · rintro rfl
    exact absurd hspace (by decide)

theorem ItemWord.isClean (w : ItemWord) : IsClean w.text := by
  intro c hc
  obtain ⟨hspace, hcomma, hhash⟩ := w.solid c hc
  refine ⟨hcomma, hhash, ?_⟩
  rintro rfl
  exact absurd isSpace_feed (Bool.eq_false_iff.mp hspace)

theorem Item.isClean_print (i : Item) : IsClean i.print := by
  refine i.name.isClean.append ?_
  cases i.called with
  | none => exact fun c hc => (List.not_mem_nil hc).elim
  | some r =>
    have has : IsClean "as".toList := List.all_iff_forall_prop.mp (by decide)
    exact r.left.isClean.append (has.append (r.right.isClean.append r.word.isClean))

/-- Commas aside, the items of a statement are clean. -/
theorem ImportStatement.clause_chars (i : ImportStatement) : ∀ c ∈ i.clause, c ≠ '#' ∧ c ≠ '\n' := by
  intro c hc
  rcases List.mem_append.mp hc with hc | hc
  · exact (i.first.isClean_print c hc).2
  · obtain ⟨n, -, hc⟩ := List.mem_flatMap.mp hc
    rcases List.mem_append.mp hc with hc | hc
    · exact (n.left.isClean c hc).2
    · rcases List.mem_cons.mp hc with rfl | hc
      · decide
      · exact ((n.right.isClean.append n.item.isClean_print) c hc).2

/-! ## Ends -/

/-- The text begins and ends with a character that is no blank. -/
structure IsTrimmed (t : Text) : Prop where
  ne_nil : t ≠ []
  head : ∀ c ∈ t.head?, isSpace c = false
  last : ∀ c ∈ t.getLast?, isSpace c = false

/-- What stands between two trimmed texts does not matter. -/
theorem IsTrimmed.join {t u : Text} (ht : IsTrimmed t) (hu : IsTrimmed u) (mid : Text) :
    IsTrimmed (t ++ (mid ++ u)) := by
  refine ⟨?_, ?_, ?_⟩
  · exact List.append_ne_nil_of_left_ne_nil ht.ne_nil _
  · rw [List.head?_append_of_ne_nil _ ht.ne_nil]
    exact ht.head
  · rw [List.getLast?_append_of_ne_nil _ (List.append_ne_nil_of_right_ne_nil mid hu.ne_nil),
      List.getLast?_append_of_ne_nil _ hu.ne_nil]
    exact hu.last

theorem ItemWord.isTrimmed (w : ItemWord) : IsTrimmed w.text :=
  ⟨w.ne_nil, fun c hc => (w.solid c (List.mem_of_head? hc)).1, fun c hc => (w.solid c (List.mem_of_getLast? hc)).1⟩

theorem Item.isTrimmed_print (i : Item) : IsTrimmed i.print := by
  unfold Item.print
  cases i.called with
  | none =>
    rw [Option.elim_none, List.append_nil]
    exact i.name.isTrimmed
  | some r =>
    have hjoin := i.name.isTrimmed.join r.word.isTrimmed (r.left.text ++ ("as".toList ++ r.right.text))
    simpa [Renaming.print] using hjoin

theorem IsTrimmed.append_nextItems {t : Text} (ht : IsTrimmed t) (others : List NextItem) :
    IsTrimmed (t ++ others.flatMap NextItem.print) := by
  induction others generalizing t with
  | nil => rwa [List.flatMap_nil, List.append_nil]
  | cons n others ih =>
    have hjoin : IsTrimmed (t ++ n.print) := by
      have := ht.join n.item.isTrimmed_print (n.left.text ++ ',' :: n.right.text)
      simpa [NextItem.print] using this
    rw [List.flatMap_cons, ← List.append_assoc]
    exact ih hjoin

theorem ImportStatement.isTrimmed_clause (i : ImportStatement) : IsTrimmed i.clause :=
  i.first.isTrimmed_print.append_nextItems i.others

/-- Stripping takes off the blanks around a trimmed text. -/
theorem strip_append {front t back : Text} (hfront : ∀ c ∈ front, isSpace c = true) (ht : IsTrimmed t)
    (hback : ∀ c ∈ back, isSpace c = true) : strip (front ++ (t ++ back)) = t := by
  have hhead : ∀ c ∈ (t ++ back).head?, isSpace c = false := by
    rw [List.head?_append_of_ne_nil _ ht.ne_nil]
    exact ht.head
  have hlast : ∀ c ∈ t.reverse.head?, isSpace c = false := by
    rw [List.head?_reverse]
    exact ht.last
  unfold strip
  rw [dropWhile_exact hfront hhead, List.reverse_append,
    dropWhile_exact (fun c hc => hback c (List.mem_reverse.mp hc)) hlast, List.reverse_reverse]

/-! ## Items -/

theorem beforeAliasFrom_append {w : Text} (hw : ∀ c ∈ w, isSpace c = false) (seen t : Text) :
    beforeAliasFrom seen (w ++ t) = beforeAliasFrom (w.reverse ++ seen) t := by
  induction w generalizing seen with
  | nil => rfl
  | cons c w ih =>
    rw [List.cons_append, beforeAliasFrom, hw c List.mem_cons_self, Bool.false_and, if_neg Bool.false_ne_true,
      ih fun d hd => hw d (List.mem_cons_of_mem _ hd)]
    simp

/-- Behind the first blank of the gap, `as` and a blank follow. -/
theorem aliasFollows_append {blanks gap : Text} (hblanks : ∀ c ∈ blanks, isSpace c = true) (hgap : IsGap gap)
    (t : Text) : aliasFollows (blanks ++ ("as".toList ++ (gap ++ t))) = true := by
  have hhead : ∀ c ∈ ("as".toList ++ (gap ++ t)).head?, isSpace c = false := by
    intro c hc
    rw [← show 'a' = c from Option.some.inj hc]
    decide
  obtain ⟨b, gap, rfl⟩ := List.exists_cons_of_ne_nil hgap.1
  unfold aliasFollows
  rw [dropWhile_exact hblanks hhead, after?_append]
  exact hgap.2 b List.mem_cons_self

/-- The first blank of an item is the one before its alias. -/
theorem beforeAlias_print (i : Item) : beforeAlias i.print = i.name.text := by
  have hsolid : ∀ c ∈ i.name.text, isSpace c = false := fun c hc => (i.name.solid c hc).1
  unfold beforeAlias Item.print
  rw [beforeAliasFrom_append hsolid, List.append_nil]
  cases i.called with
  | none => rw [Option.elim_none, beforeAliasFrom, List.reverse_reverse]
  | some r =>
    obtain ⟨b, blanks, hleft⟩ := List.exists_cons_of_ne_nil r.left.ne_nil
    have hblank : ∀ c ∈ b :: blanks, isSpace c = true := hleft ▸ r.left.blank
    have hfollows := aliasFollows_append (fun c hc => hblank c (List.mem_cons_of_mem _ hc))
      ⟨r.right.ne_nil, r.right.blank⟩ r.word.text
    rw [Option.elim_some, Renaming.print, hleft, List.cons_append, beforeAliasFrom,
      hblank b List.mem_cons_self, hfollows, Bool.and_self, if_pos rfl, List.reverse_reverse]

/-- Each comma ends an item, and the blanks around it belong to no name. -/
theorem map_splitOn_print (lead : Blanks) (item : Item) (others : List NextItem) :
    (splitOn ',' (lead.text ++ (item.print ++ others.flatMap NextItem.print))).map (fun p => beforeAlias (strip p)) =
      item.name.text :: others.map (·.item.name.text) := by
  induction others generalizing lead item with
  | nil =>
    have hcomma : ',' ∉ lead.text ++ (item.print ++ []) := fun h =>
      (lead.isClean.append (item.isClean_print.append fun c hc => (List.not_mem_nil hc).elim) _ h).1 rfl
    rw [List.flatMap_nil, splitOn_of_notMem hcomma, List.map_singleton,
      strip_append lead.blank item.isTrimmed_print (fun c hc => (List.not_mem_nil hc).elim), beforeAlias_print]
    rfl
  | cons n others ih =>
    have hcomma : ',' ∉ lead.text ++ (item.print ++ n.left.text) := fun h =>
      (lead.isClean.append (item.isClean_print.append n.left.isClean) _ h).1 rfl
    have hcut : lead.text ++ (item.print ++ (n :: others).flatMap NextItem.print) =
        (lead.text ++ (item.print ++ n.left.text)) ++
          ',' :: (n.right.text ++ (n.item.print ++ others.flatMap NextItem.print)) := by
      simp [NextItem.print]
    rw [hcut, splitOn_append_sep hcomma, List.map_cons, ih n.right n.item,
      strip_append lead.blank item.isTrimmed_print n.left.blank, beforeAlias_print]
    rfl

/-! ## Reading a printed statement -/

namespace ImportStatement
variable (i : ImportStatement)

theorem before_hash : before '#' (i.clause ++ i.ending) = i.clause ++ i.back.text := by
  have hclean : '#' ∉ i.clause ++ i.back.text := by
    rw [List.mem_append, not_or]
    exact ⟨fun h => (i.clause_chars _ h).1 rfl, fun h => (i.back.isClean _ h).2.1 rfl⟩
  unfold ending
  cases i.comment with
  | none => rw [Option.elim_none, List.append_nil, before_of_notMem hclean]
  | some c => rw [Option.elim_some, ← List.append_assoc, before_append_cons, before_of_notMem hclean]

theorem importItems_print : importItems (i.clause ++ i.ending) = i.items.map (·.name.text) := by
  have hnone : ∀ c ∈ ([] : Text), isSpace c = true := fun c hc => (List.not_mem_nil hc).elim
  have hstrip := strip_append hnone i.isTrimmed_clause i.back.blank
  rw [List.nil_append] at hstrip
  rw [importItems, before_hash, hstrip, items, List.map_cons, List.map_map]
  exact map_splitOn_print ⟨[], hnone, List.not_mem_nil⟩ i.first i.others

theorem feed_notMem : '\n' ∉ i.clause ++ i.ending := by
  unfold ending
  rw [List.mem_append, List.mem_append, not_or, not_or]
  refine ⟨fun h => (i.clause_chars _ h).2 rfl, i.back.inLine, ?_⟩
  cases i.comment with
  | none => exact List.not_mem_nil
  | some c =>
    rw [Option.elim_some, List.mem_cons, not_or]
    exact ⟨by decide, c.inLine⟩

theorem importClause?_print :
    importClause? (i.gap.text ++ (i.clause ++ i.ending)) = some (i.clause ++ i.ending) := by
  have hclause := i.isTrimmed_clause
  have hhead : ∀ c ∈ (i.clause ++ i.ending).head?, isSpace c = false := by
    rw [List.head?_append_of_ne_nil _ hclause.ne_nil]
    exact hclause.head
  unfold importClause?
  dsimp only
  rw [takeWhile_exact i.gap.blank hhead, dropWhile_exact i.gap.blank hhead,
    if_neg (mt List.isEmpty_iff.mp i.gap.ne_nil),
    if_neg (mt List.isEmpty_iff.mp (List.append_ne_nil_of_left_ne_nil hclause.ne_nil _)),
    before_of_notMem i.feed_notMem]

/-- **Reading undoes printing**: the names of a printed statement are those of its items. -/
theorem importedNames?_print : importedNames? i.print = some i.names := by
  unfold importedNames?
  rw [fromImport?_eq_bind]
  cases horigin : i.origin with
  | some o =>
    have hfrom : afterFrom? i.print = some (i.gap.text ++ (i.clause ++ i.ending)) := by
      refine afterFrom?_eq_some_iff.mpr ⟨i.front.text, o.left.text, o.path, o.right.text, ?_, i.front.blank,
        ⟨o.left.ne_nil, o.left.blank⟩, ⟨o.path_ne_nil, o.path_chars⟩, ⟨o.right.ne_nil, o.right.blank⟩⟩
      simp [print, horigin, Origin.print]
    rw [hfrom, Option.bind_some, importClause?_print]
    dsimp only
    rw [importItems_print, names, horigin]
  | none =>
    have hbody : body i.print = "import".toList ++ (i.gap.text ++ (i.clause ++ i.ending)) := by
      unfold print
      rw [horigin, Option.elim_none, List.nil_append]
      exact body_append i.front.blank (by rfl)
    have hfrom : afterFrom? i.print = none := by
      unfold afterFrom?
      rw [hbody]
      rfl
    rw [hfrom, Option.bind_none, plainImport?, hbody, after?_append]
    dsimp only [Option.bind_eq_bind, Option.bind_some]
    rw [importClause?_print, Option.map_some, importItems_print, names, horigin, List.map_map]
    rfl

end ImportStatement

end Line

/-! ## What a scan records -/

/-- The numbers of the lines that a log of imports has for the statement `x`. -/
def numbersAt (log : List ImportLine) (x : Text) : List Int :=
  (log.find? (·.statement = x)).elim [] ImportLine.lineNumbers

/-- A line that is noted adds its number to its own statement and to no other. -/
theorem numbersAt_addImportLine (log : List ImportLine) (statement x : Text) (n : Int) :
    numbersAt (ScanState.addImportLine log statement n) x =
      numbersAt log x ++ if x = statement then [n] else [] := by
  unfold ScanState.addImportLine numbersAt
  by_cases hany : log.any (·.statement = statement) = true
  · -- the entry of the statement gets one more number, all entries keep their statements
    have hkeep : ((fun l : ImportLine => decide (l.statement = x)) ∘ fun l =>
        if l.statement = statement then { l with seenAt := n :: l.seenAt } else l) =
        fun l => decide (l.statement = x) := by
      funext l
      rw [Function.comp_apply]
      split_ifs <;> rfl
    rw [if_pos hany, List.find?_map, hkeep]
    cases hfind : log.find? (·.statement = x) with
    | none =>
      have hne : x ≠ statement := by
        rintro rfl
        obtain ⟨l, hl, hsame⟩ := List.any_eq_true.mp hany
        exact List.find?_eq_none.mp hfind l hl hsame
      rw [if_neg hne]
      rfl
    | some l =>
      obtain rfl : l.statement = x := by simpa using List.find?_some hfind
      rw [Option.map_some, Option.elim_some, Option.elim_some]
      split_ifs
      · simp [ImportLine.lineNumbers]
      · rw [List.append_nil]
  · rw [if_neg hany, List.find?_append]
    by_cases hx : x = statement
    · subst hx
      have hnone : log.find? (·.statement = x) = none := by
        rw [List.find?_eq_none]
        intro l hl hsame
        exact hany (List.any_eq_true.mpr ⟨l, hl, hsame⟩)
      simp [hnone, ImportLine.lineNumbers]
    · have hlast : [ImportLine.mk statement [n]].find? (·.statement = x) = none := by
        simp [Ne.symm hx]
      rw [hlast, Option.or_none, if_neg hx, List.append_nil]

open Line

/-- **Import statements are read as they are written.** From the line of any import statement a scan adds the
names that it has not yet, in order and each once: those of the items, aliases left aside, and without an origin
what stands before their first dot, unless that is empty. The line is noted under its own text, and all else
that the scan has recorded stays. -/
theorem recordImports_print (i : ImportStatement) (s : ScanState) (n : Int) :
    ∃ log, s.recordImports n i.print =
        { s with
          importedNames := s.importedNames ++ (i.names.filter fun x => x ≠ [] ∧ x ∉ s.importedNames).eraseDups
          importLines := log } ∧
      log.map (·.statement) =
        (if i.print ∈ s.importLines.map (·.statement) then s.importLines.map (·.statement)
          else s.importLines.map (·.statement) ++ [i.print]) ∧
      ∀ x, numbersAt log x = numbersAt s.importLines x ++ if x = i.print then [n] else [] := by
  refine ⟨ScanState.addImportLine s.importLines i.print n, ?_, ?_, fun x => numbersAt_addImportLine _ _ _ _⟩
  · unfold ScanState.recordImports
    rw [i.importedNames?_print]
    dsimp only
    rw [ScanState.foldl_addName_eq]
  · have hmem : i.print ∈ s.importLines.map (·.statement) ↔
        s.importLines.any (·.statement = i.print) = true := by
      simp
    rw [ScanState.map_statement_addImportLine]
    simp only [hmem]

/-- The statement `import as.b as as ,.c` with a tab and a comment behind it. -/
def renamedImport : ImportStatement :=
  let none : Blanks := ⟨[], List.all_iff_forall_prop.mp (by decide), by decide⟩
  let space : Gap := ⟨⟨[' '], List.all_iff_forall_prop.mp (by decide), by decide⟩, by decide⟩
  { front := none
    origin := .none
    gap := space
    first := ⟨⟨"as.b".toList, by decide, List.all_iff_forall_prop.mp (by decide)⟩,
      some ⟨space, space, ⟨"as".toList, by decide, List.all_iff_forall_prop.mp (by decide)⟩⟩⟩
    others := [⟨space.toBlanks, none, ⟨".c".toList, by decide, List.all_iff_forall_prop.mp (by decide)⟩, .none⟩]
    back := ⟨['\t'], List.all_iff_forall_prop.mp (by decide), by decide⟩
    comment := some ⟨"d, e".toList, by decide⟩ }

/-- The alias is not recorded, and neither is the empty name before the dot. -/
theorem recordImports_print_renamed :
    renamedImport.print = "import as.b as as ,.c\t#d, e".toList ∧
      (ScanState.recordImports {} 7 "import as.b as as ,.c\t#d, e".toList).importedNames = ["as".toList] := by
  obtain ⟨log, hrecord, -⟩ := recordImports_print renamedImport {} 7
  have hprint : renamedImport.print = "import as.b as as ,.c\t#d, e".toList := by decide
  have hnames : renamedImport.names = ["as".toList, []] := by decide
  refine ⟨hprint, ?_⟩
  rw [← hprint, hrecord]
  dsimp only
  rw [hnames]
  decide

end CodeSmell
