import CodeSmell.Proofs.Line.Comments
import CodeSmell.Proofs.Line.Table

/-!
# Lines that open a block

A missing colon is a matter of two places of a line: the word at its start, and the last character of its
code.

* `OpensWith line w` : `w` is the word that the line starts with; `opensWith_iff`, `isHeader_iff`;
* `CodeEndsIn line c` : the code of the line, up to a comment, ends in `c` when blanks are left aside;
  `codeEndsIn_iff`, `CodeEndsIn.unique`;
* `exists_codeEndsIn`, `isComment_of_isHeader` : a line that opens a block has code, and is no comment;
* `missingColon_iff` : a colon is missing where a keyword opens the line and its code ends in something else;
* `codeEndsIn_of_isBareExcept` : the code of a bare `except` clause ends in a colon.
-/

namespace CodeSmell

open Text

/-- What is left of a stripped text ends where the blanks at the end of the text begin. -/
theorem Text.getLast?_strip_iff {t : Text} {c : Char} :
    (strip t).getLast? = some c ↔
      ∃ u gap, t = u ++ c :: gap ∧ isSpace c = false ∧ ∀ d ∈ gap, isSpace d = true := by
  have hopen : (strip t).getLast? = ((t.dropWhile isSpace).reverse.dropWhile isSpace).head? := by
    rw [strip, List.getLast?_reverse]
  rw [hopen]
  constructor
  · intro h
    obtain ⟨u, hu⟩ := List.head?_eq_some_iff.mp h
    have hc : isSpace c = false := stops_dropWhile h
    have hsplit : t.dropWhile isSpace =
        u.reverse ++ c :: ((t.dropWhile isSpace).reverse.takeWhile isSpace).reverse := by
      have hboth := List.takeWhile_append_dropWhile (p := isSpace) (l := (t.dropWhile isSpace).reverse)
      rw [hu] at hboth
      have hrev := congrArg List.reverse hboth
      simpa using hrev.symm
    refine ⟨t.takeWhile isSpace ++ u.reverse, ((t.dropWhile isSpace).reverse.takeWhile isSpace).reverse, ?_, hc,
      fun d hd => List.mem_takeWhile_imp (List.mem_reverse.mp hd)⟩
    rw [List.append_assoc, ← hsplit, List.takeWhile_append_dropWhile]
  · rintro ⟨u, gap, rfl, hc, hgap⟩
    rw [dropWhile_append_stop hc, List.reverse_append, List.reverse_cons, List.append_assoc,
      List.dropWhile_append_of_pos fun d hd => hgap d (List.mem_reverse.mp hd)]
    simp [hc]

theorem Text.hash_notMem_of_blanks {t : Text} (h : ∀ c ∈ t, isSpace c = true) : '#' ∉ t := by
  intro hmem
  have := h _ hmem
  rw [isSpace_hash] at this
  cases this

theorem Text.ne_hash_of_isWord {c : Char} (h : isWord c = true) : c ≠ '#' := by
  rintro rfl
  rw [isWord_hash] at h
  cases h

theorem Text.ne_of_mem_before {c d : Char} {t : Text} (h : d ∈ before c t) : d ≠ c := by
  unfold before at h
  exact bne_iff_ne.mp (List.mem_takeWhile_imp (p := (· != c)) h)

namespace Line

/-! ## The first word -/

/-- The line starts with blanks and then with `w`, which takes in all word characters that stand there. -/
def OpensWith (line w : Text) : Prop :=
  ∃ blanks rest, line = blanks ++ (w ++ rest) ∧ (∀ c ∈ blanks, isSpace c = true) ∧
    (∀ c ∈ (w ++ rest).head?, isSpace c = false) ∧ (∀ c ∈ w, isWord c = true) ∧
    ∀ c ∈ rest.head?, isWord c = false

theorem opensWith_iff {line w : Text} : OpensWith line w ↔ firstWord (body line) = w := by
  constructor
  · rintro ⟨blanks, rest, rfl, hblanks, hhead, hw, hrest⟩
    rw [body, dropWhile_exact hblanks hhead, firstWord, takeWhile_exact hw hrest]
  · rintro rfl
    refine ⟨line.takeWhile isSpace, (body line).dropWhile isWord, ?_, fun c hc => List.mem_takeWhile_imp hc,
      ?_, fun c hc => List.mem_takeWhile_imp hc, fun c hc => stops_dropWhile hc⟩
    · rw [firstWord, List.takeWhile_append_dropWhile, body, List.takeWhile_append_dropWhile]
    · rw [firstWord, List.takeWhile_append_dropWhile]
      exact fun c hc => stops_dropWhile hc

theorem isHeader_iff {line : Text} : isHeader line = true ↔ ∃ w ∈ headerKeywords, OpensWith line w := by
  simp only [isHeader, List.contains_iff_mem, opensWith_iff, exists_eq_right']

/-- A line that opens a block begins with a word character, behind its blanks. -/
theorem startsInWord_of_isHeader {line : Text} (h : isHeader line = true) :
    startsInWord (body line) = true := by
  cases hbody : body line with
  | nil =>
    rw [isHeader, hbody] at h
    exact absurd h (by decide)
  | cons c rest =>
    rw [startsInWord]
    by_contra hc
    rw [isHeader, hbody, firstWord, List.takeWhile_cons_of_neg hc] at h
    exact absurd h (by decide)

theorem isComment_of_isHeader {line : Text} (h : isHeader line = true) : isComment line = false := by
  have hstart := startsInWord_of_isHeader h
  unfold isComment
  cases hbody : body line with
  | nil => rfl
  | cons c rest =>
    rw [hbody, startsInWord] at hstart
    apply beq_eq_false_iff_ne.mpr
    rw [List.head?_cons, ne_eq, Option.some.injEq]
    exact ne_hash_of_isWord hstart

/-! ## The end of the code -/

/-- Of the characters before the first `#` of the line, or before its end, `c` is the last that is no blank. -/
def CodeEndsIn (line : Text) (c : Char) : Prop :=
  ∃ code gap comment, line = code ++ c :: (gap ++ comment) ∧ '#' ∉ code ∧ c ≠ '#' ∧ isSpace c = false ∧
    (∀ d ∈ gap, isSpace d = true) ∧ ∀ d ∈ comment.head?, d = '#'

theorem codeEndsIn_iff {line : Text} {c : Char} :
    CodeEndsIn line c ↔ (strip (before '#' line)).getLast? = some c := by
  rw [getLast?_strip_iff]
  constructor
  · rintro ⟨code, gap, comment, rfl, hcode, hc, hspace, hgap, hcomment⟩
    refine ⟨code, gap, ?_, hspace, hgap⟩
    have hno : ∀ d ∈ code ++ c :: gap, (d != '#') = true := by
      intro d hd
      rw [bne_iff_ne]
      rintro rfl
      rcases List.mem_append.mp hd with hd | hd
      · exact hcode hd
      · rcases List.mem_cons.mp hd with hd | hd
        · exact hc hd.symm
        · exact hash_notMem_of_blanks hgap hd
    have hstop : ∀ d ∈ comment.head?, (d != '#') = false := by
      intro d hd
      rw [hcomment d hd]
      rfl
    rw [show code ++ c :: (gap ++ comment) = (code ++ c :: gap) ++ comment by simp, before,
      takeWhile_exact hno hstop]
  · rintro ⟨code, gap, hbefore, hspace, hgap⟩
    have hno : ∀ d ∈ code ++ c :: gap, d ≠ '#' := by
      intro d hd
      rw [← hbefore] at hd
      exact ne_of_mem_before hd
    refine ⟨code, gap, line.dropWhile (· != '#'), ?_, fun h => hno _ (by simp [h]) rfl, hno c (by simp),
      hspace, hgap, fun d hd => ?_⟩
    · rw [show ∀ v, code ++ c :: (gap ++ v) = (code ++ c :: gap) ++ v by simp, ← hbefore, before,
        List.takeWhile_append_dropWhile]
    · exact bne_eq_false_iff_eq.mp (stops_dropWhile (p := (· != '#')) hd)

theorem CodeEndsIn.unique {line : Text} {c d : Char} (hc : CodeEndsIn line c) (hd : CodeEndsIn line d) :
    c = d := by
  rw [codeEndsIn_iff] at hc hd
  exact Option.some.inj (hc.symm.trans hd)

theorem endsWith_colon_iff {line : Text} :
    endsWith (strip (before '#' line)) ':' = true ↔ CodeEndsIn line ':' := by
  rw [codeEndsIn_iff, endsWith, beq_iff_eq]

/-- The blanks at the start of a line stand before its comment. -/
theorem before_hash_eq (line : Text) : before '#' line = indent line ++ before '#' (body line) := by
  have hindent : ∀ d ∈ indent line, (d != '#') = true := by
    intro d hd
    rw [bne_iff_ne]
    rintro rfl
    exact hash_notMem_of_blanks (fun c hc => List.mem_takeWhile_imp hc) hd
  have hline : line = indent line ++ body line := by
    rw [indent, body, List.takeWhile_append_dropWhile]
  conv_lhs => rw [hline, before, List.takeWhile_append_of_pos hindent]
  rfl

/-- The first word of a line that opens a block is code. -/
theorem exists_codeEndsIn {line : Text} (h : isHeader line = true) : ∃ c, CodeEndsIn line c := by
  have hstart := startsInWord_of_isHeader h
  simp only [codeEndsIn_iff]
  apply Option.ne_none_iff_exists'.mp
  intro hnone
  rw [List.getLast?_eq_none_iff, ← List.isEmpty_iff, isEmpty_strip, List.all_eq_true, before_hash_eq] at hnone
  cases hbody : body line with
  | nil =>
    rw [hbody] at hstart
    cases hstart
  | cons c rest =>
    rw [hbody, startsInWord] at hstart
    have hne := ne_hash_of_isWord hstart
    have hspace : isSpace c = true := by
      apply hnone c
      rw [hbody]
      simp [before, hne]
    rw [isSpace_of_isWord hstart] at hspace
    cases hspace

/-! ## Missing colons -/

theorem breaks_missingColon_iff {line : Text} :
    breaks line .missingColon = true ↔
      isHeader line = true ∧ endsWith (strip (before '#' line)) ':' = false := by
  simp only [breaks, lacksColon, Bool.and_eq_true, Bool.not_eq_true']
  constructor
  · rintro ⟨hheader, -, hcolon⟩
    exact ⟨hheader, hcolon⟩
  · rintro ⟨hheader, hcolon⟩
    exact ⟨hheader, isComment_of_isHeader hheader, hcolon⟩

/-- **A colon is missing where a block is opened and its code does not end in one.** The word at the start of the
line is one of the keywords, and the last character that is code is there and is no colon. That a comment is not
asked for a colon makes no difference: a line that is one opens no block. -/
theorem missingColon_iff (n : Int) (line : Text) :
    ((∃ f ∈ findings n line, f.rule = Rule.missingColon.name) ↔
      (∃ w ∈ ["def", "class", "if", "elif", "else", "for", "while", "try", "except", "with"],
        OpensWith line w.toList) ∧ ∃ c, CodeEndsIn line c ∧ c ≠ ':') ∧
    ((∃ f ∈ findings n line, f.rule = Rule.missingColon.name) ↔
      isHeader line = true ∧ endsWith (strip (before '#' line)) ':' = false) := by
  have hkeywords : (∃ w ∈ ["def", "class", "if", "elif", "else", "for", "while", "try", "except", "with"],
      OpensWith line w.toList) ↔ isHeader line = true := by
    rw [isHeader_iff, headerKeywords]
    simp only [List.mem_map, exists_exists_and_eq_and]
  refine ⟨?_, exists_finding_iff.trans breaks_missingColon_iff⟩
  rw [exists_finding_iff, breaks_missingColon_iff, hkeywords]
  refine and_congr_right fun hheader => ?_
  rw [Bool.eq_false_iff, ne_eq, endsWith_colon_iff]
  constructor
  · intro hcolon
    obtain ⟨c, hc⟩ := exists_codeEndsIn hheader
    refine ⟨c, hc, ?_⟩
    rintro rfl
    exact hcolon hc
  · rintro ⟨c, hc, hne⟩ hcolon
    exact hne (hc.unique hcolon)

/-! ## Bare `except` clauses -/

theorem head?_eq_hash_of_onlyComment {t : Text} (h : onlyComment t = true) : ∀ c ∈ t.head?, c = '#' := by
  cases t with
  | nil => simp
  | cons c t =>
    rw [onlyComment, Bool.and_eq_true, beq_iff_eq] at h
    intro d hd
    rw [← h.1]
    exact (Option.mem_some.mp hd).symm

theorem codeEndsIn_of_isBareExcept {line : Text} (h : isBareExcept line = true) : CodeEndsIn line ':' := by
  unfold isBareExcept at h
  cases hafter : after? "except".toList (body line) with
  | none =>
    rw [hafter] at h
    cases h
  | some rest =>
    simp only [hafter] at h
    split at h
    · rename_i tail htail
      have hblank : ∀ t : Text, '#' ∉ t.takeWhile isSpace :=
        fun t => hash_notMem_of_blanks fun c hc => List.mem_takeWhile_imp hc
      have hbody : body line = "except".toList ++ (rest.takeWhile isSpace ++ ':' :: tail) := by
        rw [← htail, List.takeWhile_append_dropWhile]
        exact eq_append_of_after? hafter
      refine ⟨line.takeWhile isSpace ++ ("except".toList ++ rest.takeWhile isSpace), tail.takeWhile isSpace,
        tail.dropWhile isSpace, ?_, ?_, by decide, by decide, fun d hd => List.mem_takeWhile_imp hd,
        head?_eq_hash_of_onlyComment h⟩
      · rw [List.takeWhile_append_dropWhile]
        conv_lhs => rw [← List.takeWhile_append_dropWhile (p := isSpace) (l := line), ← body, hbody]
        simp only [List.append_assoc]
      · simp only [List.mem_append, not_or]
        exact ⟨hblank line, by decide, hblank rest⟩
    · cases h

/-- A bare `except` clause has its colon. -/
theorem not_missingColon_of_bareExcept {line : Text} (h : breaks line .bareExcept = true) :
    breaks line .missingColon = false := by
  rw [Bool.eq_false_iff]
  intro hmissing
  have hcolon := (breaks_missingColon_iff.mp hmissing).2
  rw [endsWith_colon_iff.mpr (codeEndsIn_of_isBareExcept h)] at hcolon
  cases hcolon

end Line

end CodeSmell
