import CodeSmell.Line.Rules
import CodeSmell.Proofs.Text.Lines

/-!
# Line ends of one or two characters

* `CrBeforeLf t` : every carriage return of `t` stands right before a line feed;
* `crlfToLf` : a line feed in place of each carriage return and line feed;
* `Crlf` : the texts with `CrBeforeLf`, built from the front, to do inductions on;
* `lines_crlfToLf`, `words_crlfToLf`, `occurrencesFrom_crlfToLf`, `startsWithCall_crlfToLf` : lines,
  words, the places of a name and calls of a function are the same with either line end.
-/

namespace CodeSmell.Text

/-- Every carriage return stands right before a line feed. -/
def CrBeforeLf (t : Text) : Prop :=
  ∀ i : Nat, t[i]? = some '\r' → t[i + 1]? = some '\n'

instance (t : Text) : Decidable (CrBeforeLf t) :=
  decidable_of_iff (∀ i < t.length, t[i]? = some '\r' → t[i + 1]? = some '\n')
    ⟨fun h i hi => h i (List.getElem?_eq_some_iff.mp hi).1 hi, fun h i _ => h i⟩

/-- The text with a line feed in place of each carriage return and line feed. -/
def crlfToLf : Text → Text
  | [] => []
  | '\r' :: '\n' :: t => '\n' :: crlfToLf t
  | c :: t => c :: crlfToLf t

@[simp] theorem crlfToLf_crlf (t : Text) : crlfToLf ('\r' :: '\n' :: t) = '\n' :: crlfToLf t := rfl

theorem crlfToLf_cons {c : Char} (h : c ≠ '\r') (t : Text) : crlfToLf (c :: t) = c :: crlfToLf t := by
  rw [crlfToLf]
  rintro t' rfl
  exact absurd rfl h

/-- Texts made of pairs of a carriage return and a line feed, and of characters other than carriage
returns. -/
inductive Crlf : Text → Prop
  | nil : Crlf []
  | crlf {t : Text} : Crlf t → Crlf ('\r' :: '\n' :: t)
  | other {c : Char} {t : Text} : c ≠ '\r' → Crlf t → Crlf (c :: t)

theorem CrBeforeLf.tail {c : Char} {t : Text} (h : CrBeforeLf (c :: t)) : CrBeforeLf t :=
  fun i hi => h (i + 1) hi

theorem CrBeforeLf.crlf : ∀ {t : Text}, CrBeforeLf t → Crlf t
  | [], _ => .nil
  | c :: t, h => by
    by_cases hc : c = '\r'
    · subst hc
      cases t with
      | nil => cases h 0 rfl
      | cons d t =>
        obtain rfl : d = '\n' := Option.some.inj (h 0 rfl)
        exact .crlf h.tail.tail.crlf
    · exact .other hc h.tail.crlf

theorem isWord_return : isWord '\r' = false := by decide

theorem isWord_feed : isWord '\n' = false := by decide

theorem isSpace_return : isSpace '\r' = true := by decide

theorem isSpace_feed : isSpace '\n' = true := by decide

/-! ## Lines and ends -/

theorem dropFinal_cons {c d : Char} (h : d ≠ c) (t : Text) :
    dropFinal c (d :: t) = d :: dropFinal c t := by
  unfold dropFinal
  cases t with
  | nil => simp [h]
  | cons e t =>
    rw [List.getLast?_cons_cons, List.dropLast_cons_cons]
    split_ifs <;> rfl

theorem map_dropFinal_consFirst {c d : Char} (h : d ≠ c) (parts : List Text) :
    (consFirst d parts).map (dropFinal c) = consFirst d (parts.map (dropFinal c)) := by
  cases parts with
  | nil => simp [consFirst, dropFinal, h]
  | cons p parts => simp [consFirst, dropFinal_cons h]

section
variable {t : Text} (h : Crlf t)
include h

theorem lines_crlfToLf : lines (crlfToLf t) = lines t := by
  unfold lines
  induction h with
  | nil => rfl
  | crlf _ ih =>
    rw [crlfToLf_crlf, splitOn_cons_sep, splitOn_cons_of_ne (by decide), splitOn_cons_sep, List.map_cons,
      ih]
    rfl
  | @other c t hc _ ih =>
    rw [crlfToLf_cons hc]
    by_cases hn : c = '\n'
    · subst hn
      rw [splitOn_cons_sep, splitOn_cons_sep, List.map_cons, List.map_cons, ih]
    · rw [splitOn_cons_of_ne hn, splitOn_cons_of_ne hn, map_dropFinal_consFirst hc,
        map_dropFinal_consFirst hc, ih]

theorem isEmpty_crlfToLf : (crlfToLf t).isEmpty = t.isEmpty := by
  cases h with
  | nil => rfl
  | crlf _ => rfl
  | other hc _ => rw [crlfToLf_cons hc]; rfl

theorem getLast?_crlfToLf : (crlfToLf t).getLast? = t.getLast? := by
  induction h with
  | nil => rfl
  | crlf _ ih => rw [crlfToLf_crlf, List.getLast?_cons, ih, List.getLast?_cons_cons, List.getLast?_cons]
  | other hc _ ih => rw [crlfToLf_cons hc, List.getLast?_cons, ih, List.getLast?_cons]

/-- Conditions that do not tell the two characters of a line end apart. -/
theorem all_crlfToLf {p : Char → Bool} (hp : p '\r' = p '\n') : (crlfToLf t).all p = t.all p := by
  induction h with
  | nil => rfl
  | crlf _ ih =>
    rw [crlfToLf_crlf, List.all_cons, List.all_cons, List.all_cons, ih, hp, ← Bool.and_assoc,
      Bool.and_self]
  | other hc _ ih => rw [crlfToLf_cons hc, List.all_cons, List.all_cons, ih]

theorem mem_crlfToLf {c : Char} (hc : c ≠ '\r') : c ∈ crlfToLf t ↔ c ∈ t := by
  induction h with
  | nil => rfl
  | crlf _ ih => rw [crlfToLf_crlf, List.mem_cons, List.mem_cons, List.mem_cons, ih, or_iff_right hc]
  | other hd _ ih => rw [crlfToLf_cons hd, List.mem_cons, List.mem_cons, ih]

/-! ## Words -/

theorem firstWord_crlfToLf : firstWord (crlfToLf t) = firstWord t := by
  unfold firstWord
  induction h with
  | nil => rfl
  | crlf _ _ =>
    rw [crlfToLf_crlf, List.takeWhile_cons_of_neg (by simp [isWord_feed]),
      List.takeWhile_cons_of_neg (by simp [isWord_return])]
  | other hc _ ih => rw [crlfToLf_cons hc, List.takeWhile_cons, List.takeWhile_cons, ih]

theorem startsInWord_crlfToLf : startsInWord (crlfToLf t) = startsInWord t := by
  cases h with
  | nil => rfl
  | crlf _ => rw [crlfToLf_crlf, startsInWord, startsInWord, isWord_return, isWord_feed]
  | other hc _ => rw [crlfToLf_cons hc, startsInWord, startsInWord]

theorem wordTailsFrom_crlfToLf (inWord : Bool) (found : List Text) :
    wordTailsFrom inWord (found.map crlfToLf) (crlfToLf t) =
      (wordTailsFrom inWord found t).map crlfToLf := by
  induction h generalizing inWord found with
  | nil => exact List.map_reverse.symm
  | crlf _ ih =>
    -- neither character of the line end is in a word
    simp only [crlfToLf_crlf, wordTailsFrom, isWord_return, isWord_feed, Bool.false_and, Bool.false_eq_true,
      if_false]
    exact ih false found
  | other hc _ ih =>
    rw [crlfToLf_cons hc, wordTailsFrom, wordTailsFrom]
    split_ifs
    · rw [← crlfToLf_cons hc, ← List.map_cons, ih]
    · exact ih _ _

theorem wordTails_crlfToLf : wordTails (crlfToLf t) = (wordTails t).map crlfToLf :=
  wordTailsFrom_crlfToLf h false []

theorem crlf_of_mem_wordTailsFrom {inWord : Bool} {found : List Text} (hfound : ∀ x ∈ found, Crlf x)
    {x : Text} (hx : x ∈ wordTailsFrom inWord found t) : Crlf x := by
  induction h generalizing inWord found with
  | nil => exact hfound x (List.mem_reverse.mp hx)
  | crlf _ ih =>
    simp only [wordTailsFrom, isWord_return, isWord_feed, Bool.false_and, Bool.false_eq_true,
      if_false] at hx
    exact ih hfound hx
  | other hc ht ih =>
    rw [wordTailsFrom] at hx
    split_ifs at hx
    · exact ih (List.forall_mem_cons.mpr ⟨.other hc ht, hfound⟩) hx
    · exact ih hfound hx

theorem crlf_of_mem_wordTails {x : Text} (hx : x ∈ wordTails t) : Crlf x :=
  crlf_of_mem_wordTailsFrom h (by simp) hx

theorem words_crlfToLf : words (crlfToLf t) = words t := by
  rw [words, words, wordTails_crlfToLf h, List.map_map]
  exact List.map_congr_left fun x hx => firstWord_crlfToLf (crlf_of_mem_wordTails h hx)

/-! ## Names and calls -/

theorem after?_crlfToLf {name : Text} (hr : '\r' ∉ name) (hn : '\n' ∉ name) :
    after? name (crlfToLf t) = (after? name t).map crlfToLf ∧ ∀ rest ∈ after? name t, Crlf rest := by
  induction name generalizing t with
  | nil => exact ⟨rfl, fun rest hrest => Option.some.inj hrest ▸ h⟩
  | cons a name ih =>
    rw [List.mem_cons, not_or] at hr hn
    cases h with
    | nil => exact ⟨rfl, by simp [after?]⟩
    | crlf _ =>
      rw [crlfToLf_crlf, after?, after?, if_neg (Ne.symm hn.1), if_neg (Ne.symm hr.1)]
      exact ⟨rfl, by simp⟩
    | @other c t hc ht =>
      rw [crlfToLf_cons hc, after?, after?]
      split_ifs
      · exact ih ht hr.2 hn.2
      · exact ⟨rfl, by simp⟩

theorem head?_dropWhile_isSpace_crlfToLf :
    ((crlfToLf t).dropWhile isSpace).head? = (t.dropWhile isSpace).head? := by
  induction h with
  | nil => rfl
  | crlf _ ih =>
    rwa [crlfToLf_crlf, List.dropWhile_cons_of_pos isSpace_feed, List.dropWhile_cons_of_pos isSpace_return,
      List.dropWhile_cons_of_pos isSpace_feed]
  | other hc _ ih =>
    rw [crlfToLf_cons hc, List.dropWhile_cons, List.dropWhile_cons]
    split_ifs
    · exact ih
    · rfl

theorem startsWithCall_crlfToLf {name : Text} (hr : '\r' ∉ name) (hn : '\n' ∉ name) :
    Line.startsWithCall name (crlfToLf t) = Line.startsWithCall name t := by
  obtain ⟨hafter, hrest⟩ := after?_crlfToLf h hr hn
  rw [Line.startsWithCall, Line.startsWithCall, hafter]
  cases hname : after? name t with
  | none => rfl
  | some rest => simp only [Option.map_some, head?_dropWhile_isSpace_crlfToLf (hrest rest hname)]

theorem standsAt_crlfToLf {name : Text} (hr : '\r' ∉ name) (hn : '\n' ∉ name) (inWord : Bool) :
    standsAt name inWord (crlfToLf t) = standsAt name inWord t := by
  obtain ⟨hafter, hrest⟩ := after?_crlfToLf h hr hn
  rw [standsAt, standsAt, hafter, startsInWord_crlfToLf h]
  cases hname : after? name t with
  | none => rfl
  | some rest => simp only [Option.map_some, startsInWord_crlfToLf (hrest rest hname)]

end

theorem eq_append_of_after? {name t rest : Text} (h : after? name t = some rest) : t = name ++ rest := by
  induction name generalizing t with
  | nil => exact Option.some.inj h
  | cons a name ih =>
    cases t with
    | nil => cases h
    | cons b t =>
      rw [after?] at h
      split_ifs at h with hab
      rw [hab, List.cons_append, ← ih h]

theorem eq_append_of_standsAt {name t : Text} {inWord : Bool} (h : standsAt name inWord t = true) :
    ∃ rest, t = name ++ rest := by
  rw [standsAt, Bool.and_eq_true] at h
  cases hname : after? name t with
  | none => simp [hname] at h
  | some rest => exact ⟨rest, eq_append_of_after? hname⟩

theorem standsAt_cons_of_notMem {name : Text} (hne : name ≠ []) {c : Char} (hc : c ∉ name)
    (inWord : Bool) (t : Text) : standsAt name inWord (c :: t) = false := by
  rw [Bool.eq_false_iff]
  intro hs
  obtain ⟨rest, he⟩ := eq_append_of_standsAt hs
  obtain ⟨a, name, rfl⟩ := List.exists_cons_of_ne_nil hne
  rw [List.cons_append, List.cons_eq_cons] at he
  exact hc (he.1 ▸ List.mem_cons_self)

/-- The characters still to be skipped belong to the name found last, so no line end is among them. -/
theorem occurrencesFrom_crlfToLf {name : Text} (hne : name ≠ []) (hr : '\r' ∉ name) (hn : '\n' ∉ name)
    {t : Text} (h : Crlf t) : ∀ (inWord : Bool) (skip count : Nat), '\r' ∉ t.take skip →
    occurrencesFrom name inWord skip count (crlfToLf t) = occurrencesFrom name inWord skip count t := by
  induction h with
  | nil => intro inWord skip count _; rfl
  | @crlf t ht ih =>
    intro inWord skip count hskip
    obtain rfl : skip = 0 := by
      by_contra hpos
      obtain ⟨k, rfl⟩ := Nat.exists_eq_succ_of_ne_zero hpos
      exact hskip (by simp)
    simp only [crlfToLf_crlf, occurrencesFrom, standsAt_cons_of_notMem hne hr,
      standsAt_cons_of_notMem hne hn, Bool.false_eq_true, if_false]
    exact ih _ 0 count (by simp)
  | @other c t hc ht ih =>
    intro inWord skip count hskip
    have hstand := standsAt_crlfToLf (.other hc ht) hr hn inWord
    rw [crlfToLf_cons hc] at hstand ⊢
    cases skip with
    | succ k => exact ih _ k count fun hk => hskip (List.mem_cons_of_mem _ hk)
    | zero =>
      simp only [occurrencesFrom, hstand]
      split_ifs with hs
      · refine ih _ _ _ fun hk => hr ?_
        obtain ⟨rest, he⟩ := eq_append_of_standsAt hs
        obtain ⟨a, name, rfl⟩ := List.exists_cons_of_ne_nil hne
        rw [List.cons_append, List.cons_eq_cons] at he
        rw [he.2, List.length_cons, Nat.add_sub_cancel, List.take_left] at hk
        exact List.mem_cons_of_mem _ hk
      · exact ih _ 0 count (by simp)

end CodeSmell.Text
