import CodeSmell.Proofs.Line.Statement

/-!
# Lines that import

* `IsGap` : one or more blanks; `afterBlanks?_eq_some_iff` : the rest after a gap;
* `IsPlainImport`, `IsFromImport` : the two forms of an import statement. What comes after the keyword
  `import` and its gap is any character but a line feed, so it may be one more blank;
* `isSome_importClause?_iff` : the clause after the keyword is there exactly when such a character is;
* `afterFrom?_eq_some_iff` : what follows the keyword in the second form;
* `isSome_importedNames?_iff` : the lines that name something to import are those of the two forms.
-/

namespace CodeSmell.Line

open Text

def IsGap (t : Text) : Prop :=
  t ≠ [] ∧ ∀ c ∈ t, isSpace c = true

/-- What follows the keyword `import`: a gap and then a character other than a line feed, be it a blank or
not. -/
def OpensClause (t : Text) : Prop :=
  ∃ gap c rest, t = gap ++ c :: rest ∧ IsGap gap ∧ c ≠ '\n'

/-- The line is `import …`, with any blanks before it. -/
def IsPlainImport (line : Text) : Prop :=
  ∃ front rest, line = front ++ ("import".toList ++ rest) ∧ (∀ c ∈ front, isSpace c = true) ∧
    OpensClause rest

/-- The line is `from m import …`, with any blanks before it. -/
def IsFromImport (line : Text) : Prop :=
  ∃ front gap path gap' rest,
    line = front ++ ("from".toList ++ (gap ++ (path ++ (gap' ++ ("import".toList ++ rest))))) ∧
    (∀ c ∈ front, isSpace c = true) ∧ IsGap gap ∧ (path ≠ [] ∧ ∀ c ∈ path, isModuleChar c = true) ∧
    IsGap gap' ∧ OpensClause rest

def IsImport (line : Text) : Prop :=
  IsFromImport line ∨ IsPlainImport line

/-! ## Parts of a line -/

theorem after?_eq_some_iff {w t rest : Text} : after? w t = some rest ↔ t = w ++ rest :=
  ⟨eq_append_of_after?, fun h => h ▸ after?_append w rest⟩

/-- A word that begins the body of a line comes after the blanks of the line. -/
theorem body_eq_append_iff {line w rest : Text} (hw : startsInWord w = true) :
    body line = w ++ rest ↔ ∃ front, line = front ++ (w ++ rest) ∧ ∀ c ∈ front, isSpace c = true := by
  have hstart : startsInWord (w ++ rest) = true := by
    cases w with
    | nil => cases hw
    | cons c w => exact hw
  constructor
  · intro h
    refine ⟨line.takeWhile isSpace, ?_, fun c hc => List.mem_takeWhile_imp hc⟩
    rw [← h, body, List.takeWhile_append_dropWhile]
  · rintro ⟨front, rfl, hfront⟩
    exact body_append hfront hstart

theorem afterBlanks?_eq_some_iff {t rest : Text} :
    afterBlanks? t = some rest ↔
      ∃ gap, t = gap ++ rest ∧ IsGap gap ∧ ∀ c ∈ rest.head?, isSpace c = false := by
  constructor
  · intro h
    cases t with
    | nil => cases h
    | cons c t =>
      rw [afterBlanks?] at h
      split_ifs at h with hc
      cases h
      refine ⟨c :: t.takeWhile isSpace, ?_, ⟨List.cons_ne_nil _ _, ?_⟩, ?_⟩
      · rw [List.cons_append, List.takeWhile_append_dropWhile]
      · intro d hd
        rcases List.mem_cons.mp hd with rfl | hd
        · exact hc
        · exact List.mem_takeWhile_imp hd
      · exact fun d hd => stops_dropWhile hd
  · rintro ⟨gap, rfl, ⟨hne, hgap⟩, hrest⟩
    obtain ⟨c, gap, rfl⟩ := List.exists_cons_of_ne_nil hne
    rw [List.cons_append, afterBlanks?, if_pos (hgap c List.mem_cons_self),
      dropWhile_exact (fun d hd => hgap d (List.mem_cons_of_mem _ hd)) hrest]

theorem isModuleChar_of_isSpace {c : Char} (h : isSpace c = true) : isModuleChar c = false := by
  have hcodes : ∀ n ∈ blankCodes, isModuleChar (Char.ofNat n) = false := by decide +kernel
  rw [← Char.ofNat_toNat c]
  exact hcodes _ (toNat_mem_blankCodes h)

/-! ## The clause -/

/-- The blanks after the keyword may go back to the clause, all but the first. -/
theorem isSome_importClause?_iff {t : Text} : (importClause? t).isSome = true ↔ OpensClause t := by
  have hblank : ∀ c ∈ t.takeWhile isSpace, isSpace c = true := fun c hc => List.mem_takeWhile_imp hc
  have hsplit : t = t.takeWhile isSpace ++ t.dropWhile isSpace := List.takeWhile_append_dropWhile.symm
  constructor
  · intro h
    unfold importClause? at h
    dsimp only at h
    split_ifs at h with hblanks hclause htail
    · cases h
    · -- the clause is empty: it begins with a blank
      obtain ⟨c, hc, hfeed⟩ := List.any_eq_true.mp htail
      obtain ⟨b, tail, hcons⟩ := List.exists_cons_of_ne_nil (mt List.isEmpty_iff.mpr hblanks)
      rw [hcons] at hblank hsplit hc
      obtain ⟨u, v, rfl⟩ := List.append_of_mem hc
      refine ⟨b :: u, c, v ++ t.dropWhile isSpace, ?_, ⟨List.cons_ne_nil b u, fun d hd => ?_⟩, ?_⟩
      · rw [← List.cons_append, List.append_assoc, List.cons_append] at hsplit
        exact hsplit
      · exact hblank d (List.mem_append_left (c :: v) hd)
      · simpa using hfeed
    · cases h
    · obtain ⟨c, rest, hcons⟩ := List.exists_cons_of_ne_nil (mt List.isEmpty_iff.mpr hclause)
      refine ⟨t.takeWhile isSpace, c, rest, hcons ▸ hsplit, ⟨mt List.isEmpty_iff.mpr hblanks, hblank⟩, ?_⟩
      rintro rfl
      have hfeed : isSpace '\n' = false := stops_dropWhile (t := t) (by rw [hcons]; rfl)
      exact absurd isSpace_feed (Bool.eq_false_iff.mp hfeed)
  · rintro ⟨gap, c, rest, rfl, ⟨hne, hgap⟩, hc⟩
    obtain ⟨b, gap, rfl⟩ := List.exists_cons_of_ne_nil hne
    unfold importClause?
    dsimp only
    rw [List.takeWhile_append_of_pos hgap, List.dropWhile_append_of_pos hgap]
    split_ifs with hblanks hclause htail
    · cases hblanks
    · rfl
    · -- nothing but blanks is left, so `c` is one of them
      have hspace : isSpace c = true := by
        have hall := List.dropWhile_eq_nil_iff.mp (List.isEmpty_iff.mp hclause)
        exact hall c List.mem_cons_self
      refine absurd (List.any_eq_true.mpr ⟨c, ?_, by simpa using hc⟩) htail
      rw [List.cons_append, List.tail_cons, List.takeWhile_cons_of_pos hspace]
      exact List.mem_append_right gap List.mem_cons_self
    · rfl

/-! ## The two forms -/

theorem isSome_plainImport?_iff {line : Text} : (plainImport? line).isSome = true ↔ IsPlainImport line := by
  have hword : startsInWord "import".toList = true := by decide
  simp only [plainImport?, Option.bind_eq_bind, Option.isSome_bind, Option.any_eq_true, after?_eq_some_iff,
    body_eq_append_iff hword, isSome_importClause?_iff]
  constructor
  · rintro ⟨rest, ⟨front, hline, hfront⟩, hrest⟩
    exact ⟨front, rest, hline, hfront, hrest⟩
  · rintro ⟨front, rest, hline, hfront, hrest⟩
    exact ⟨rest, ⟨front, hline, hfront⟩, hrest⟩

/-- What follows the keyword `import` of `from m import …`. -/
def afterFrom? (line : Text) : Option Text := do
  let rest ← afterBlanks? (← after? "from".toList (body line))
  if (rest.takeWhile isModuleChar).isEmpty then none
  else after? "import".toList (← afterBlanks? (rest.dropWhile isModuleChar))

theorem fromImport?_eq_bind (line : Text) : fromImport? line = (afterFrom? line).bind importClause? := by
  unfold fromImport? afterFrom?
  cases after? "from".toList (body line) with
  | none => rfl
  | some t =>
    simp only [Option.bind_eq_bind, Option.bind_some]
    cases afterBlanks? t with
    | none => rfl
    | some u =>
      simp only [Option.bind_some]
      split_ifs
      · rfl
      · rw [Option.bind_assoc]

/-- The steps of reading `from m import`. -/
theorem afterFrom?_eq_some_iff_steps {line w : Text} :
    afterFrom? line = some w ↔
      ∃ t u, body line = "from".toList ++ t ∧ afterBlanks? t = some u ∧ u.takeWhile isModuleChar ≠ [] ∧
        afterBlanks? (u.dropWhile isModuleChar) = some ("import".toList ++ w) := by
  simp only [afterFrom?, Option.bind_eq_bind, Option.bind_eq_some_iff, after?_eq_some_iff]
  constructor
  · rintro ⟨t, ht, u, hu, h⟩
    split_ifs at h with hpath
    simp only [Option.bind_eq_some_iff, after?_eq_some_iff] at h
    obtain ⟨v, hv, rfl⟩ := h
    exact ⟨t, u, ht, hu, mt List.isEmpty_iff.mpr hpath, hv⟩
  · rintro ⟨t, u, ht, hu, hpath, hv⟩
    refine ⟨t, ht, u, hu, ?_⟩
    rw [if_neg (mt List.isEmpty_iff.mp hpath), hv]
    exact after?_append _ w

/-- A gap ends a module path, and a module path ends a gap. -/
theorem afterFrom?_eq_some_iff {line w : Text} :
    afterFrom? line = some w ↔
      ∃ front gap path gap',
        line = front ++ ("from".toList ++ (gap ++ (path ++ (gap' ++ ("import".toList ++ w))))) ∧
        (∀ c ∈ front, isSpace c = true) ∧ IsGap gap ∧ (path ≠ [] ∧ ∀ c ∈ path, isModuleChar c = true) ∧
        IsGap gap' := by
  have hword : startsInWord "from".toList = true := by decide
  rw [afterFrom?_eq_some_iff_steps]
  constructor
  · rintro ⟨t, u, ht, hu, hpath, hv⟩
    obtain ⟨front, hline, hfront⟩ := (body_eq_append_iff hword).mp ht
    obtain ⟨gap, rfl, hgap, -⟩ := afterBlanks?_eq_some_iff.mp hu
    obtain ⟨gap', hrest, hgap', -⟩ := afterBlanks?_eq_some_iff.mp hv
    refine ⟨front, gap, u.takeWhile isModuleChar, gap', ?_, hfront, hgap,
      ⟨hpath, fun c hc => List.mem_takeWhile_imp hc⟩, hgap'⟩
    rw [hline, ← hrest, List.takeWhile_append_dropWhile]
  · rintro ⟨front, gap, path, gap', hline, hfront, hgap, ⟨hne, hpath⟩, hgap'⟩
    have hstop : ∀ c ∈ (gap' ++ ("import".toList ++ w)).head?, isModuleChar c = false := by
      obtain ⟨b, blanks, rfl⟩ := List.exists_cons_of_ne_nil hgap'.1
      rintro c hc
      rw [← Option.some.inj hc]
      exact isModuleChar_of_isSpace (hgap'.2 b List.mem_cons_self)
    refine ⟨gap ++ (path ++ (gap' ++ ("import".toList ++ w))), path ++ (gap' ++ ("import".toList ++ w)),
      (body_eq_append_iff hword).mpr ⟨front, hline, hfront⟩, ?_, ?_, ?_⟩
    · refine afterBlanks?_eq_some_iff.mpr ⟨gap, rfl, hgap, ?_⟩
      obtain ⟨b, rest, rfl⟩ := List.exists_cons_of_ne_nil hne
      rintro c hc
      rw [← Option.some.inj hc, Bool.eq_false_iff]
      intro hspace
      exact absurd (hpath b List.mem_cons_self) (Bool.eq_false_iff.mp (isModuleChar_of_isSpace hspace))
    · rwa [takeWhile_exact hpath hstop]
    · rw [dropWhile_exact hpath hstop]
      refine afterBlanks?_eq_some_iff.mpr ⟨gap', rfl, hgap', fun c hc => ?_⟩
      rw [← show 'i' = c from Option.some.inj hc]
      decide

theorem isSome_fromImport?_iff {line : Text} : (fromImport? line).isSome = true ↔ IsFromImport line := by
  simp only [fromImport?_eq_bind, Option.isSome_bind, Option.any_eq_true, afterFrom?_eq_some_iff,
    isSome_importClause?_iff]
  constructor
  · rintro ⟨rest, ⟨front, gap, path, gap', hline, hfront, hgap, hpath, hgap'⟩, hrest⟩
    exact ⟨front, gap, path, gap', rest, hline, hfront, hgap, hpath, hgap', hrest⟩
  · rintro ⟨front, gap, path, gap', rest, hline, hfront, hgap, hpath, hgap', hrest⟩
    exact ⟨rest, ⟨front, gap, path, gap', hline, hfront, hgap, hpath, hgap'⟩, hrest⟩

theorem isSome_importedNames?_iff {line : Text} :
    (importedNames? line).isSome = true ↔ IsImport line := by
  rw [IsImport, ← isSome_fromImport?_iff, ← isSome_plainImport?_iff, importedNames?]
  cases fromImport? line with
  | none => simp
  | some clause => simp

-- a second blank after the keyword is a clause
example : ["import ", "import  ", "from m import\t\t"].map (fun line => (importedNames? line.toList).isSome) =
    [false, true, true] := by decide

end CodeSmell.Line
