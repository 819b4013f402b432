import CodeSmell.Proofs.Line.Statement
import CodeSmell.Proofs.Scan.Analysis
import Mathlib.Data.List.Induction

/-!
# What a scan remembers of the lines

* `scanLines_concat` : the scan of one more line;
* `RecordsFirst lines assigned` : each assigned name comes with the number of the first line that assigns
  to it; `recordsFirst_scanLines`, and `pairwise_assigned_scanLines` : in the order of these lines;
* `ScanState.foldl_addName_eq` : which names a line adds to the imported ones;
* `mem_importedNames_scanLines`, `nodup_importedNames_scanLines` : the imported names are those of the
  lines, each once;
* `LogsImports lines log` : the import statements are lines that import, each with the numbers of all
  lines that are equal to it; `logsImports_scanLines`.
-/

namespace CodeSmell

theorem scanLines_concat (lines : List Text) (line : Text) :
    scanLines (lines ++ [line]) = (scanLines lines).read (line, lines.length + 1) := by
  rw [scanLines, List.zipIdx_append, List.foldl_append, ← scanLines, List.zipIdx_singleton,
    List.foldl_cons, List.foldl_nil, Nat.add_comm]

/-- The state after one more line. -/
theorem state_scanLines_concat (lines : List Text) (line : Text) :
    (scanLines (lines ++ [line])).state =
      ((scanLines lines).state.readLine (lines.length + 1 : ℕ) line).1 := by
  rw [scanLines_concat]
  rfl

/-! ## One line -/

namespace ScanState
variable (s : ScanState) (n : Int) (line : Text)

@[simp] theorem assigned_recordImports : (s.recordImports n line).assigned = s.assigned := by
  unfold recordImports
  split <;> rfl

@[simp] theorem importedNames_recordAssignment :
    (s.recordAssignment n line).importedNames = s.importedNames := by
  unfold recordAssignment
  split
  · rfl
  · split_ifs <;> rfl

@[simp] theorem importLines_recordAssignment :
    (s.recordAssignment n line).importLines = s.importLines := by
  unfold recordAssignment
  split
  · rfl
  · split_ifs <;> rfl

theorem assigned_readLine_of_none (h : Line.assignedName? line = none) :
    (s.readLine n line).1.assigned = s.assigned := by
  simp [readLine, recordAssignment, h, trackIndent]

theorem assigned_readLine_of_some {name : Text} (h : Line.assignedName? line = some name) :
    (s.readLine n line).1.assigned =
      if s.assigned.any (·.1 = name) then s.assigned else s.assigned ++ [(name, n)] := by
  simp only [readLine, recordAssignment, h, assigned_recordImports, trackIndent]
  split_ifs <;> simp

theorem importedNames_recordImports :
    (s.recordImports n line).importedNames = (Line.imported line).foldl addName s.importedNames := by
  unfold recordImports Line.imported
  cases Line.importedNames? line <;> rfl

theorem importedNames_readLine :
    (s.readLine n line).1.importedNames = (Line.imported line).foldl addName s.importedNames := by
  simp only [readLine, importedNames_recordAssignment, importedNames_recordImports, trackIndent]

theorem importLines_readLine :
    (s.readLine n line).1.importLines =
      if (Line.importedNames? line).isSome then addImportLine s.importLines line n
      else s.importLines := by
  simp only [readLine, importLines_recordAssignment, recordImports]
  cases Line.importedNames? line <;> rfl

end ScanState

/-! ## Assigned names -/

def firstAssignment? (lines : List Text) (name : Text) : Option Nat :=
  lines.findIdx? fun line => Line.assignedName? line = some name

theorem firstAssignment?_concat (lines : List Text) (line name : Text) :
    firstAssignment? (lines ++ [line]) name =
      (firstAssignment? lines name).or
        (if Line.assignedName? line = some name then some lines.length else none) := by
  rw [firstAssignment?, List.findIdx?_append, ← firstAssignment?, List.findIdx?_singleton]
  by_cases h : Line.assignedName? line = some name <;> simp [h]

theorem assignedName?_of_firstAssignment? {lines : List Text} {name : Text} {i : Nat}
    (h : firstAssignment? lines name = some i) :
    ∃ line, lines[i]? = some line ∧ Line.assignedName? line = some name := by
  obtain ⟨hi, hline, -⟩ := List.findIdx?_eq_some_iff_getElem.mp h
  exact ⟨lines[i], List.getElem?_eq_getElem hi, of_decide_eq_true hline⟩

theorem exists_firstAssignment? {lines : List Text} {line name : Text} (hline : line ∈ lines)
    (h : Line.assignedName? line = some name) : ∃ i, firstAssignment? lines name = some i := by
  rw [← Option.isSome_iff_exists, firstAssignment?, List.findIdx?_isSome, List.any_eq_true]
  exact ⟨line, hline, decide_eq_true h⟩

/-- The names are those that the lines assign to, each with the number of the first line that does. -/
def RecordsFirst (lines : List Text) (assigned : List (Text × Int)) : Prop :=
  ∀ name n, (name, n) ∈ assigned ↔ ∃ i, firstAssignment? lines name = some i ∧ n = (i + 1 : ℕ)

namespace RecordsFirst
variable {lines : List Text} {assigned : List (Text × Int)} (h : RecordsFirst lines assigned)
  {line v : Text}
include h

theorem any_iff : assigned.any (·.1 = v) = true ↔ (firstAssignment? lines v).isSome = true := by
  simp only [List.any_eq_true, decide_eq_true_eq, Option.isSome_iff_exists]
  constructor
  · rintro ⟨⟨w, m⟩, hmem, hw⟩
    obtain ⟨i, hi, -⟩ := (h v m).mp (hw ▸ hmem)
    exact ⟨i, hi⟩
  · rintro ⟨i, hi⟩
    exact ⟨(v, _), (h v _).mpr ⟨i, hi, rfl⟩, rfl⟩

/-- A line that assigns to nothing, or to a name that a line before it assigns to. -/
theorem known (hline : ∀ v, Line.assignedName? line = some v → (firstAssignment? lines v).isSome = true) :
    RecordsFirst (lines ++ [line]) assigned := by
  intro name n
  rw [h, firstAssignment?_concat]
  split_ifs with hname
  · obtain ⟨i, hi⟩ := Option.isSome_iff_exists.mp (hline name hname)
    simp [hi]
  · rw [Option.or_none]

/-- A line that assigns to a name that is new. -/
theorem new (hline : Line.assignedName? line = some v) (hnew : firstAssignment? lines v = none) :
    RecordsFirst (lines ++ [line]) (assigned ++ [(v, ((lines.length + 1 : ℕ) : ℤ))]) := by
  intro name n
  rw [List.mem_append, h, firstAssignment?_concat, hline]
  by_cases hname : name = v
  · subst hname
    simp [hnew]
  · simp [hname, Ne.symm hname]

theorem readLine (s : ScanState) (hs : s.assigned = assigned) :
    RecordsFirst (lines ++ [line]) (s.readLine (lines.length + 1 : ℕ) line).1.assigned := by
  cases hline : Line.assignedName? line with
  | none =>
    rw [ScanState.assigned_readLine_of_none _ _ _ hline, hs]
    exact h.known fun v hv => by rw [hline] at hv; cases hv
  | some v =>
    rw [ScanState.assigned_readLine_of_some _ _ _ hline, hs]
    split_ifs with hany
    · refine h.known fun w hw => ?_
      rw [hline] at hw
      cases hw
      exact h.any_iff.mp hany
    · exact h.new hline (by simpa using mt h.any_iff.mpr hany)

end RecordsFirst

theorem recordsFirst_scanLines (lines : List Text) :
    RecordsFirst lines (scanLines lines).state.assigned := by
  induction lines using List.reverseRecOn with
  | nil => intro name n; simp [scanLines, firstAssignment?]
  | append_singleton lines line ih =>
    rw [state_scanLines_concat]
    exact ih.readLine _ rfl

/-- Names are kept in the order of the lines where they stand. -/
theorem pairwise_assigned_scanLines (lines : List Text) :
    (scanLines lines).state.assigned.Pairwise fun a b => a.2 < b.2 := by
  induction lines using List.reverseRecOn with
  | nil => exact List.Pairwise.nil
  | append_singleton lines line ih =>
    rw [state_scanLines_concat]
    cases hline : Line.assignedName? line with
    | none => rwa [ScanState.assigned_readLine_of_none _ _ _ hline]
    | some v =>
      rw [ScanState.assigned_readLine_of_some _ _ _ hline]
      split_ifs
      · exact ih
      · refine List.pairwise_append.mpr ⟨ih, List.pairwise_singleton _ _, ?_⟩
        rintro ⟨name, n⟩ hmem b hb
        obtain ⟨i, hi, rfl⟩ := (recordsFirst_scanLines lines name n).mp hmem
        obtain ⟨first, hfirst, -⟩ := assignedName?_of_firstAssignment? hi
        have hlt := (List.getElem?_eq_some_iff.mp hfirst).1
        rw [List.mem_singleton.mp hb]
        simp only
        omega

/-! ## Imported names -/

namespace ScanState

/-- Names are added behind those that are there, each once and in the order in which they first come. -/
theorem foldl_addName_eq (names found : List Text) :
    names.foldl addName found = found ++ (names.filter fun x => x ≠ [] ∧ x ∉ found).eraseDups := by
  induction names generalizing found with
  | nil => simp
  | cons name names ih =>
    rw [List.foldl_cons, List.filter_cons]
    by_cases hskip : name ≠ [] ∧ name ∉ found
    · have hadd : addName found name = found ++ [name] := by
        simp [addName, hskip.1, hskip.2]
      have hfilter : (names.filter fun x => x ≠ [] ∧ x ∉ found ++ [name]) =
          (names.filter fun x => x ≠ [] ∧ x ∉ found).filter fun x => !x == name := by
        rw [List.filter_filter]
        refine List.filter_congr fun x _ => ?_
        by_cases hx : x = name
        · simp [hx]
        · simp [hx]
      rw [hadd, ih, hfilter, if_pos (by simpa using hskip), List.eraseDups_cons, List.append_assoc]
      rfl
    · have hadd : addName found name = found := by
        unfold addName
        rw [if_pos]
        by_contra hnot
        exact hskip (by simpa using hnot)
      rw [hadd, ih, if_neg (by simpa using hskip)]

/-- Empty names are not added. -/
theorem foldl_addName_filter (names found : List Text) :
    (names.filter (· ≠ [])).foldl addName found = names.foldl addName found := by
  rw [foldl_addName_eq, foldl_addName_eq, List.filter_filter]
  congr 3
  funext x
  by_cases hx : x = [] <;> simp [hx]

theorem mem_foldl_addName {names found : List Text} {name : Text} :
    name ∈ names.foldl addName found ↔ name ∈ found ∨ name ≠ [] ∧ name ∈ names := by
  rw [foldl_addName_eq, List.mem_append, List.mem_eraseDups, List.mem_filter, decide_eq_true_eq]
  by_cases hfound : name ∈ found
  · simp [hfound]
  · simp [hfound, and_comm]

theorem nodup_foldl_addName {names found : List Text} (h : found.Nodup) :
    (names.foldl addName found).Nodup := by
  induction names generalizing found with
  | nil => exact h
  | cons x names ih =>
    refine ih ?_
    unfold addName
    split_ifs with hx
    · exact h
    · rw [Bool.or_eq_true, not_or, List.contains_iff_mem] at hx
      exact List.nodup_append.mpr ⟨h, List.nodup_singleton x, fun y hy z hz he => hx.2 (by
        rw [← List.mem_singleton.mp hz, ← he]
        exact hy)⟩

end ScanState

theorem mem_importedNames_scanLines (lines : List Text) (name : Text) :
    name ∈ (scanLines lines).state.importedNames ↔
      name ≠ [] ∧ ∃ line ∈ lines, name ∈ Line.imported line := by
  induction lines using List.reverseRecOn with
  | nil => simp [scanLines]
  | append_singleton lines line ih =>
    rw [state_scanLines_concat, ScanState.importedNames_readLine, ScanState.mem_foldl_addName, ih,
      ← and_or_left]
    simp [or_and_right, exists_or]

theorem nodup_importedNames_scanLines (lines : List Text) :
    (scanLines lines).state.importedNames.Nodup := by
  induction lines using List.reverseRecOn with
  | nil => exact List.nodup_nil
  | append_singleton lines line ih =>
    rw [state_scanLines_concat, ScanState.importedNames_readLine]
    exact ScanState.nodup_foldl_addName ih

/-! ## Import statements -/

def numbersOf (lines : List Text) (statement : Text) : List Nat :=
  ((lines.zipIdx 1).filter (·.1 = statement)).map (·.2)

theorem numbersOf_concat (lines : List Text) (line statement : Text) :
    numbersOf (lines ++ [line]) statement =
      numbersOf lines statement ++ if line = statement then [lines.length + 1] else [] := by
  rw [numbersOf, List.zipIdx_append, List.filter_append, List.map_append, ← numbersOf,
    List.zipIdx_singleton, Nat.add_comm 1]
  split_ifs with h <;> simp [h]

theorem mem_numbersOf {lines : List Text} {statement : Text} {n : Nat} :
    n ∈ numbersOf lines statement ↔ ∃ i, n = i + 1 ∧ lines[i]? = some statement := by
  simp only [numbersOf, List.mem_map, List.mem_filter, decide_eq_true_eq, Prod.exists,
    List.mk_mem_zipIdx_iff_le_and_getElem?_sub]
  constructor
  · rintro ⟨line, m, ⟨⟨hle, hline⟩, rfl⟩, rfl⟩
    exact ⟨m - 1, by omega, hline⟩
  · rintro ⟨i, rfl, hi⟩
    exact ⟨statement, i + 1, ⟨⟨by omega, hi⟩, rfl⟩, rfl⟩

/-- The log of import statements holds the lines that import, each with the numbers of all lines that
are equal to it. -/
structure LogsImports (lines : List Text) (log : List ImportLine) : Prop where
  statement : ∀ x, (∃ l ∈ log, l.statement = x) ↔ x ∈ lines ∧ (Line.importedNames? x).isSome = true
  numbers : ∀ l ∈ log, l.lineNumbers = (numbersOf lines l.statement).map Nat.cast

namespace LogsImports
variable {lines : List Text} {log : List ImportLine} (h : LogsImports lines log) {line : Text}
include h

/-- A line that imports nothing is no statement of the log. -/
theorem other (hline : (Line.importedNames? line).isSome = false) :
    LogsImports (lines ++ [line]) log := by
  refine ⟨fun x => ?_, fun l hl => ?_⟩
  · rw [h.statement, List.mem_append, List.mem_singleton]
    refine and_congr_left fun hx => (or_iff_left ?_).symm
    rintro rfl
    rw [hline] at hx
    cases hx
  · have hne : line ≠ l.statement := by
      rintro rfl
      rw [((h.statement _).mp ⟨l, hl, rfl⟩).2] at hline
      cases hline
    rw [h.numbers l hl, numbersOf_concat, if_neg hne, List.append_nil]

theorem mem_concat_iff (hline : (Line.importedNames? line).isSome = true) (x : Text) :
    x ∈ lines ++ [line] ∧ (Line.importedNames? x).isSome = true ↔
      (∃ l ∈ log, l.statement = x) ∨ x = line := by
  rw [h.statement, List.mem_append, List.mem_singleton, or_and_right]
  exact or_congr_right (and_iff_left_of_imp fun hx => hx ▸ hline)

/-- A line that is in the log: its entry gets one more number. -/
theorem again (hline : (Line.importedNames? line).isSome = true)
    (hknown : ∃ l ∈ log, l.statement = line) :
    LogsImports (lines ++ [line]) (log.map fun l => if l.statement = line then
      { l with seenAt := ((lines.length + 1 : ℕ) : ℤ) :: l.seenAt } else l) := by
  have hkeep : ∀ l : ImportLine, (if l.statement = line then
      { l with seenAt := ((lines.length + 1 : ℕ) : ℤ) :: l.seenAt } else l).statement = l.statement := by
    intro l
    split_ifs <;> rfl
  refine ⟨fun x => ?_, fun l' hl' => ?_⟩
  · rw [h.mem_concat_iff hline, or_iff_left_of_imp fun hx => hx ▸ hknown]
    simp only [List.mem_map, exists_exists_and_eq_and, hkeep]
  · obtain ⟨l, hl, rfl⟩ := List.mem_map.mp hl'
    rw [hkeep, numbersOf_concat, List.map_append, ← h.numbers l hl]
    by_cases he : l.statement = line
    · rw [if_pos he, if_pos he.symm]
      simp [ImportLine.lineNumbers]
    · rw [if_neg he, if_neg (Ne.symm he)]
      simp

/-- A line that is not in the log: no line before it is equal to it. -/
theorem new (hline : (Line.importedNames? line).isSome = true)
    (hnew : ¬ ∃ l ∈ log, l.statement = line) :
    LogsImports (lines ++ [line]) (log ++ [⟨line, [((lines.length + 1 : ℕ) : ℤ)]⟩]) := by
  refine ⟨fun x => ?_, fun l hl => ?_⟩
  · rw [h.mem_concat_iff hline]
    simp [or_and_right, exists_or, eq_comm]
  · rw [List.mem_append, List.mem_singleton] at hl
    rcases hl with hl | rfl
    · have hne : line ≠ l.statement := fun he => hnew ⟨l, hl, he.symm⟩
      rw [h.numbers l hl, numbersOf_concat, if_neg hne, List.append_nil]
    · have hnone : numbersOf lines line = [] := by
        rw [List.eq_nil_iff_forall_not_mem]
        intro n hn
        obtain ⟨i, -, hi⟩ := mem_numbersOf.mp hn
        exact hnew ((h.statement line).mpr ⟨List.mem_of_getElem? hi, hline⟩)
      rw [numbersOf_concat, hnone, if_pos rfl]
      rfl

theorem addImportLine (hline : (Line.importedNames? line).isSome = true) :
    LogsImports (lines ++ [line]) (ScanState.addImportLine log line (lines.length + 1 : ℕ)) := by
  unfold ScanState.addImportLine
  split_ifs with hany
  · exact h.again hline (by simpa using hany)
  · exact h.new hline (by simpa using hany)

end LogsImports

theorem logsImports_scanLines (lines : List Text) :
    LogsImports lines (scanLines lines).state.importLines := by
  induction lines using List.reverseRecOn with
  | nil => exact ⟨by simp [scanLines], by simp [scanLines]⟩
  | append_singleton lines line ih =>
    rw [state_scanLines_concat, ScanState.importLines_readLine]
    split_ifs with hline
    · exact ih.addImportLine hline
    · exact ih.other (Bool.eq_false_iff.mpr hline)

end CodeSmell
