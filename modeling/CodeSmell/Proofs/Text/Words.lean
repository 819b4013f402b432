import CodeSmell.Proofs.Text.Blanks
import CodeSmell.Proofs.Text.Newlines

/-!
# The words of a text

* `words_eq_splitOnP` : the words of a text are what stands between its other characters;
* `words_append_cons`, `words_append`, `words_run` : the words of a text that is cut where no word is;
* `words_strip`, `words_splitOn`, `words_lines` : trimming and cutting into parts or lines keep the words;
* `IsFront u t` : `u` is what `t` begins with, up to a place where no word goes on;
* `runs_induction` : induction over a text, a word at a time;
* `occurrencesFrom_append_cons` : a text may be cut at a character that is in no word and not in the name, and
  the places of the name are those of the two parts;
* `occurrences?_eq_count` : a name of word characters stands in a text as often as it is a word of it.
-/

namespace CodeSmell.Text

/-! ## Blanks are in no word -/

def blankCodes : List Nat :=
  List.range' 9 5 ++ List.range' 28 5 ++ List.range' 0x2000 11 ++
    [0x85, 0xA0, 0x1680, 0x2028, 0x2029, 0x202F, 0x205F, 0x3000]

theorem toNat_mem_blankCodes {c : Char} (h : isSpace c = true) : c.toNat ∈ blankCodes := by
  simp only [isSpace, Bool.or_eq_true, Bool.and_eq_true, decide_eq_true_eq, beq_iff_eq] at h
  simp only [blankCodes, List.mem_append, List.mem_range'_1, List.mem_cons, List.not_mem_nil, or_false]
  omega

theorem isWord_of_isSpace {c : Char} (h : isSpace c = true) : isWord c = false := by
  have hcodes : ∀ n ∈ blankCodes, isWord (Char.ofNat n) = false := by decide +kernel
  rw [← Char.ofNat_toNat c]
  exact hcodes _ (toNat_mem_blankCodes h)

theorem isSpace_of_isWord {c : Char} (h : isWord c = true) : isSpace c = false := by
  rw [Bool.eq_false_iff]
  intro hspace
  rw [isWord_of_isSpace hspace] at h
  cases h

theorem isWord_of_letter_or_underscore {c : Char} (h : (isAsciiLetter c || c == '_') = true) :
    isWord c = true := by
  have hascii : c.toNat < 128 := by
    simp only [isAsciiLetter, Bool.or_eq_true, Bool.and_eq_true, decide_eq_true_eq, beq_iff_eq,
      Char.le_def, UInt32.le_iff_toNat_le] at h
    rcases h with (⟨-, h⟩ | ⟨-, h⟩) | rfl
    · exact Nat.lt_of_le_of_lt h (by decide)
    · exact Nat.lt_of_le_of_lt h (by decide)
    · decide
  rw [isWord, if_pos hascii]
  simp only [Bool.or_eq_true] at h ⊢
  tauto

theorem startsInWord_eq_false_of_blanks {t : Text} (h : ∀ c ∈ t, isSpace c = true) (u : Text)
    (hu : startsInWord u = false) : startsInWord (t ++ u) = false := by
  cases t with
  | nil => exact hu
  | cons c t => exact isWord_of_isSpace (h c List.mem_cons_self)

theorem startsInWord_eq_false_iff {t : Text} :
    startsInWord t = false ↔ ∀ c ∈ t.head?, isWord c = false := by
  cases t with
  | nil => simp [startsInWord]
  | cons c t => simp [startsInWord]

/-- Where a run ends that holds all word characters, no word goes on. -/
theorem startsInWord_dropWhile {p : Char → Bool} (h : ∀ c, p c = false → isWord c = false) (t : Text) :
    startsInWord (t.dropWhile p) = false := by
  rw [startsInWord_eq_false_iff]
  exact fun c hc => h c (stops_dropWhile hc)

theorem takeWhile_run {w : Text} (hw : ∀ c ∈ w, isWord c = true) {t : Text}
    (ht : startsInWord t = false) : (w ++ t).takeWhile isWord = w :=
  takeWhile_exact hw (startsInWord_eq_false_iff.mp ht)

theorem dropWhile_run {w : Text} (hw : ∀ c ∈ w, isWord c = true) {t : Text}
    (ht : startsInWord t = false) : (w ++ t).dropWhile isWord = t :=
  dropWhile_exact hw (startsInWord_eq_false_iff.mp ht)

/-! ## Words between other characters -/

theorem wordTailsFrom_eq (inWord : Bool) (found : List Text) (t : Text) :
    wordTailsFrom inWord found t = found.reverse ++ wordTailsFrom inWord [] t := by
  induction t generalizing inWord found with
  | nil => simp [wordTailsFrom]
  | cons c t ih =>
    rw [wordTailsFrom, wordTailsFrom]
    split_ifs
    · rw [ih, ih true [c :: t]]
      simp
    · rw [ih]

/-- What stands before the first character that is in no word is the first word, or empty. -/
theorem splitOnP_eq_firstWord_cons (t : Text) :
    ∃ parts, t.splitOnP (fun c => !isWord c) = firstWord t :: parts := by
  induction t with
  | nil => exact ⟨[], rfl⟩
  | cons c t ih =>
    obtain ⟨parts, hparts⟩ := ih
    rw [List.splitOnP_cons_eq_if_modifyHead, firstWord, List.takeWhile_cons]
    cases hc : isWord c with
    | false => exact ⟨t.splitOnP fun c => !isWord c, by simp⟩
    | true =>
      rw [hparts]
      exact ⟨parts, by simp [firstWord]⟩

/-- Within a word, the first part is the rest of that word and starts no new one. -/
theorem map_firstWord_wordTailsFrom (inWord : Bool) (t : Text) :
    (wordTailsFrom inWord [] t).map firstWord =
      (if inWord then (t.splitOnP fun c => !isWord c).tail
        else t.splitOnP fun c => !isWord c).filter (!·.isEmpty) := by
  induction t generalizing inWord with
  | nil => cases inWord <;> rfl
  | cons c t ih =>
    obtain ⟨parts, hparts⟩ := splitOnP_eq_firstWord_cons t
    rw [List.splitOnP_cons_eq_if_modifyHead, wordTailsFrom]
    cases hc : isWord c with
    | false =>
      have := ih false
      cases inWord <;> simpa using this
    | true =>
      have htail := ih true
      rw [hparts, if_pos rfl, List.tail_cons] at htail
      cases inWord with
      | true => simpa [hparts] using htail
      | false =>
        have hfirst : firstWord (c :: t) = c :: firstWord t := by
          rw [firstWord, List.takeWhile_cons_of_pos hc, ← firstWord]
        simp only [Bool.not_false, Bool.and_self, if_true]
        rw [wordTailsFrom_eq, List.map_append, htail]
        simp [hparts, hfirst]

/-- **Words are maximal runs**: the parts of the text between its other characters, empty ones left
out. -/
theorem words_eq_splitOnP (t : Text) :
    words t = (t.splitOnP fun c => !isWord c).filter (!·.isEmpty) :=
  map_firstWord_wordTailsFrom false t

theorem isWord_of_mem_words {t w : Text} (hw : w ∈ words t) {c : Char} (hc : c ∈ w) :
    isWord c = true := by
  obtain ⟨tail, -, rfl⟩ := List.mem_map.mp hw
  exact List.mem_takeWhile_imp hc

@[simp] theorem words_nil : words [] = [] := rfl

theorem words_append_cons {c : Char} (hc : isWord c = false) (t u : Text) :
    words (t ++ c :: u) = words t ++ words u := by
  have hsep : (!isWord c) = true := by rw [hc]; rfl
  rw [words_eq_splitOnP, List.splitOnP_append_cons (p := fun c => !isWord c) t u hsep, List.filter_append,
    ← words_eq_splitOnP, ← words_eq_splitOnP]

theorem words_cons_of_not_isWord {c : Char} (hc : isWord c = false) (t : Text) :
    words (c :: t) = words t :=
  words_append_cons hc [] t

theorem words_append (t : Text) {u : Text} (hu : startsInWord u = false) :
    words (t ++ u) = words t ++ words u := by
  cases u with
  | nil => simp
  | cons c u => rw [words_append_cons hu, words_cons_of_not_isWord hu]

/-- Characters in front that are in no word add no word. -/
theorem words_append_of_not_isWord {t : Text} (h : ∀ c ∈ t, isWord c = false) (u : Text) :
    words (t ++ u) = words u := by
  induction t with
  | nil => rfl
  | cons c t ih =>
    rw [List.cons_append, words_cons_of_not_isWord (h c List.mem_cons_self),
      ih fun d hd => h d (List.mem_cons_of_mem _ hd)]

theorem words_append_of_blanks {t : Text} (h : ∀ c ∈ t, isSpace c = true) (u : Text) :
    words (t ++ u) = words u :=
  words_append_of_not_isWord (fun c hc => isWord_of_isSpace (h c hc)) u

theorem words_of_blanks {t : Text} (h : ∀ c ∈ t, isSpace c = true) : words t = [] := by
  have := words_append_of_blanks h []
  rwa [List.append_nil] at this

/-- A run of word characters that no word character follows is a word. -/
theorem words_run {w : Text} (hne : w ≠ []) (hw : ∀ c ∈ w, isWord c = true) {t : Text}
    (ht : startsInWord t = false) : words (w ++ t) = w :: words t := by
  have hself : words w = [w] := by
    rw [words_eq_splitOnP, List.splitOnP_eq_singleton (by simpa using hw)]
    simp [hne]
  rw [words_append w ht, hself, List.singleton_append]

/-! ## Trimming and cutting -/

theorem exists_strip_append (t : Text) :
    ∃ front back, t = front ++ strip t ++ back ∧ (∀ c ∈ front, isSpace c = true) ∧
      ∀ c ∈ back, isSpace c = true := by
  refine ⟨t.takeWhile isSpace, ((t.dropWhile isSpace).reverse.takeWhile isSpace).reverse, ?_, ?_, ?_⟩
  · rw [strip, List.append_assoc, ← List.reverse_append, List.takeWhile_append_dropWhile,
      List.reverse_reverse, List.takeWhile_append_dropWhile]
  · exact fun c hc => List.mem_takeWhile_imp hc
  · exact fun c hc => List.mem_takeWhile_imp (List.mem_reverse.mp hc)

theorem words_strip (t : Text) : words (strip t) = words t := by
  obtain ⟨front, back, ht, hfront, hback⟩ := exists_strip_append t
  have hstart : startsInWord back = false := by
    simpa using startsInWord_eq_false_of_blanks hback [] rfl
  conv_rhs => rw [ht, List.append_assoc, words_append_of_blanks hfront, words_append _ hstart,
    words_of_blanks hback, List.append_nil]

theorem words_dropFinal {c : Char} (hc : isWord c = false) (t : Text) :
    words (dropFinal c t) = words t := by
  rcases dropFinal_append_or c t with h | h
  · rw [← h]
  · conv_rhs => rw [h, words_append_cons hc, words_nil, List.append_nil]

theorem words_splitOn {sep : Char} (hsep : isWord sep = false) (t : Text) :
    (splitOn sep t).flatMap words = words t := by
  induction t using parts_induction sep with
  | last p hp => rw [splitOn_of_notMem hp, List.flatMap_singleton]
  | step p t hp ih => rw [splitOn_append_sep hp, List.flatMap_cons, ih, words_append_cons hsep]

/-- The words of a text are those of its lines. -/
theorem words_lines (t : Text) : t.lines.flatMap words = words t := by
  rw [lines, List.flatMap_map, ← words_splitOn isWord_feed]
  exact List.flatMap_congr fun p _ => words_dropFinal isWord_return p

/-! ## Fronts -/

/-- `u` is the front of `t` up to a place where no word goes on. -/
def IsFront (u t : Text) : Prop :=
  ∃ rest, t = u ++ rest ∧ startsInWord rest = false

namespace IsFront

theorem refl (t : Text) : IsFront t t :=
  ⟨[], (List.append_nil t).symm, rfl⟩

theorem trans {t u v : Text} (h : IsFront u t) (h' : IsFront v u) : IsFront v t := by
  obtain ⟨back, rfl, hback⟩ := h
  obtain ⟨mid, rfl, hmid⟩ := h'
  refine ⟨mid ++ back, List.append_assoc _ _ _, ?_⟩
  cases mid with
  | nil => exact hback
  | cons c mid => exact hmid

theorem words_sublist {t u : Text} (h : IsFront u t) : (words u).Sublist (words t) := by
  obtain ⟨rest, rfl, hrest⟩ := h
  rw [words_append u hrest]
  exact List.sublist_append_left _ _

/-- A front of word characters is the first word. -/
theorem words_eq {t w : Text} (h : IsFront w t) (hne : w ≠ []) (hw : ∀ c ∈ w, isWord c = true) :
    ∃ ws, words t = w :: ws := by
  obtain ⟨rest, rfl, hrest⟩ := h
  exact ⟨words rest, words_run hne hw hrest⟩

end IsFront

theorem isFront_before {c : Char} (hc : isWord c = false) (t : Text) : IsFront (before c t) t := by
  refine ⟨t.dropWhile (· != c), List.takeWhile_append_dropWhile.symm, startsInWord_dropWhile ?_ t⟩
  intro d hd
  rw [show d = c by simpa using hd, hc]

/-! ## Places of a name -/

/-- Induction over a text: a character that is in no word, or a whole word, comes off the front. -/
theorem runs_induction {P : Text → Prop} (nil : P [])
    (other : ∀ c t, isWord c = false → P t → P (c :: t))
    (run : ∀ w t, w ≠ [] → (∀ c ∈ w, isWord c = true) → startsInWord t = false → P t → P (w ++ t))
    (t : Text) : P t := by
  -- within a word, what is known is about the text behind it
  have key : ∀ t, P (t.dropWhile isWord) ∧ P t := by
    intro t
    induction t with
    | nil => exact ⟨nil, nil⟩
    | cons c t ih =>
      cases hc : isWord c with
      | false =>
        rw [List.dropWhile_cons_of_neg (by simp [hc])]
        exact ⟨other c t hc ih.2, other c t hc ih.2⟩
      | true =>
        rw [List.dropWhile_cons_of_pos hc]
        refine ⟨ih.1, ?_⟩
        have hsplit : c :: t = (c :: t.takeWhile isWord) ++ t.dropWhile isWord := by
          rw [List.cons_append, List.takeWhile_append_dropWhile]
        rw [hsplit]
        refine run _ _ (List.cons_ne_nil _ _) ?_ (startsInWord_dropWhile (fun _ h => h) t) ih.1
        intro d hd
        rcases List.mem_cons.mp hd with rfl | hd
        · exact hc
        · exact List.mem_takeWhile_imp hd
  exact (key t).2

theorem after?_append (w t : Text) : after? w (w ++ t) = some t := by
  induction w with
  | nil => rfl
  | cons c w ih => rw [List.cons_append, after?, if_pos rfl, ih]

section Cut
variable {name : Text} {d : Char} (hd : d ∉ name)
include hd

/-- What is in front of a character that the name does not hold decides whether the name begins it. -/
theorem after?_append_cons (t u : Text) :
    after? name (t ++ d :: u) = (after? name t).map (· ++ d :: u) := by
  induction name generalizing t with
  | nil => rfl
  | cons a name ih =>
    rw [List.mem_cons, not_or] at hd
    cases t with
    | nil => simp [after?, Ne.symm hd.1]
    | cons b t =>
      rw [List.cons_append, after?, after?]
      split_ifs
      · exact ih hd.2 t
      · rfl

theorem standsAt_append_cons (hword : isWord d = false) (inWord : Bool) (t u : Text) :
    standsAt name inWord (t ++ d :: u) = standsAt name inWord t := by
  have hstart : ∀ v : Text, startsInWord (v ++ d :: u) = startsInWord v := by
    intro v
    cases v with
    | nil => exact hword
    | cons c v => rfl
  rw [standsAt, standsAt, after?_append_cons hd, hstart]
  cases after? name t with
  | none => rfl
  | some rest => simp only [Option.map_some, hstart]

/-- A text is searched up to such a character and then anew behind it: no place of the name goes over it, since
the characters still to be skipped belong to the name found last. -/
theorem occurrencesFrom_append_cons (hne : name ≠ []) (hword : isWord d = false) (inWord : Bool)
    (skip count : Nat) (t u : Text) (hskip : skip ≤ t.length) :
    occurrencesFrom name inWord skip count (t ++ d :: u) =
      occurrencesFrom name false 0 (occurrencesFrom name inWord skip count t) u := by
  induction t generalizing inWord skip count with
  | nil =>
    obtain rfl : skip = 0 := Nat.le_zero.mp hskip
    simp only [List.nil_append, occurrencesFrom, standsAt_cons_of_notMem hne hd, hword, Bool.false_eq_true,
      if_false]
  | cons c t ih =>
    have hstands := standsAt_append_cons hd hword inWord (c :: t) u
    rw [List.cons_append] at hstands ⊢
    cases skip with
    | succ k => exact ih _ k count (Nat.le_of_succ_le_succ hskip)
    | zero =>
      simp only [occurrencesFrom, hstands]
      split_ifs with hs
      · obtain ⟨rest, hrest⟩ := eq_append_of_standsAt hs
        have hlength := congrArg List.length hrest
        rw [List.length_cons, List.length_append] at hlength
        exact ih _ _ _ (by omega)
      · exact ih _ 0 count (Nat.zero_le _)

end Cut

/-- Within a word no name starts. -/
theorem occurrencesFrom_inWord (name : Text) {w : Text} (hw : ∀ c ∈ w, isWord c = true)
    (count : Nat) (t : Text) :
    occurrencesFrom name true 0 count (w ++ t) = occurrencesFrom name true 0 count t := by
  induction w with
  | nil => rfl
  | cons c w ih =>
    have hc := hw c List.mem_cons_self
    have hstands : standsAt name true (c :: (w ++ t)) = false := by
      rw [standsAt, startsInWord, hc]
      rfl
    rw [List.cons_append, occurrencesFrom, hstands, hc]
    exact ih fun d hd => hw d (List.mem_cons_of_mem _ hd)

theorem occurrencesFrom_skip (name : Text) {w : Text} (hw : ∀ c ∈ w, isWord c = true)
    (count : Nat) (t : Text) :
    occurrencesFrom name true w.length count (w ++ t) = occurrencesFrom name true 0 count t := by
  induction w with
  | nil => rfl
  | cons c w ih =>
    rw [List.cons_append, List.length_cons, occurrencesFrom, hw c List.mem_cons_self]
    exact ih fun d hd => hw d (List.mem_cons_of_mem _ hd)

section Places
variable {name : Text} (hne : name ≠ []) (hname : ∀ c ∈ name, isWord c = true)
include hne hname

/-- Behind a word it does not matter that a word was there. -/
theorem occurrencesFrom_after_word {t : Text} (ht : startsInWord t = false) (count : Nat) :
    occurrencesFrom name true 0 count t = occurrencesFrom name false 0 count t := by
  cases t with
  | nil => rfl
  | cons c t =>
    have hc : c ∉ name := fun h => by
      have := hname c h
      rw [startsInWord] at ht
      rw [ht] at this
      cases this
    simp only [occurrencesFrom, standsAt_cons_of_notMem hne hc]

/-- At the start of a word stands that word only. -/
theorem standsAt_run {w : Text} (hwne : w ≠ []) (hw : ∀ c ∈ w, isWord c = true) {t : Text}
    (ht : startsInWord t = false) : standsAt name false (w ++ t) = true ↔ name = w := by
  have hstart : startsInWord (w ++ t) = true := by
    obtain ⟨c, w, rfl⟩ := List.exists_cons_of_ne_nil hwne
    exact hw c List.mem_cons_self
  have hlast : name.getLast?.any isWord = true := by
    rw [List.getLast?_eq_some_getLast hne]
    exact hname _ (List.getLast_mem hne)
  rw [standsAt, hstart]
  constructor
  · intro h
    cases hafter : after? name (w ++ t) with
    | none => simp [hafter] at h
    | some rest =>
      rw [hafter, hlast] at h
      have hrest : startsInWord rest = false := by simpa using h
      have hruns := congrArg (List.takeWhile isWord) (eq_append_of_after? hafter)
      rw [takeWhile_run hw ht, takeWhile_run hname hrest] at hruns
      exact hruns.symm
  · rintro rfl
    rw [after?_append, hlast]
    simpa using ht

/-- Left to right, without overlap, a name of word characters is found once for each word that it is. -/
theorem occurrencesFrom_eq_count (count : Nat) (t : Text) :
    occurrencesFrom name false 0 count t = count + (words t).count name := by
  induction t using runs_induction generalizing count with
  | nil => rfl
  | other c t hc ih =>
    have hstands : standsAt name false (c :: t) = false := by
      rw [standsAt, startsInWord, hc]
      rfl
    rw [occurrencesFrom, hstands, hc, words_cons_of_not_isWord hc]
    exact ih count
  | run w t hwne hw ht ih =>
    have hstands := standsAt_run hne hname hwne hw ht
    rw [words_run hwne hw ht, List.count_cons]
    obtain ⟨c, w, rfl⟩ := List.exists_cons_of_ne_nil hwne
    have hc := hw c List.mem_cons_self
    have htail : ∀ d ∈ w, isWord d = true := fun d hd => hw d (List.mem_cons_of_mem _ hd)
    rw [List.cons_append] at hstands ⊢
    rw [occurrencesFrom, hc]
    by_cases hwname : name = c :: w
    · rw [if_pos (hstands.mpr hwname), hwname, List.length_cons, Nat.add_sub_cancel, ← hwname,
        occurrencesFrom_skip name htail, occurrencesFrom_after_word hne hname ht, ih,
        if_pos (by simp [hwname])]
      omega
    · rw [if_neg fun h => hwname (hstands.mp h), occurrencesFrom_inWord name htail,
        occurrencesFrom_after_word hne hname ht, ih, if_neg (by simpa using fun h => hwname h.symm),
        Nat.add_zero]

end Places

theorem occurrences?_eq_count {name : Text} (hid : name.isIdentifier = true)
    (hname : ∀ c ∈ name, isWord c = true) (t : Text) :
    occurrences? name t = some ((words t).count name) := by
  have hne : name ≠ [] := by
    rintro rfl
    cases hid
  rw [occurrences?, if_pos hid, occurrencesFrom_eq_count hne hname, Nat.zero_add]

end CodeSmell.Text
