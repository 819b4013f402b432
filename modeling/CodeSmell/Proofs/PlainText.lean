import CodeSmell.Proofs.Prose
import CodeSmell.Proofs.Text.Runs
import Mathlib.Data.List.Chain

/-!
# Texts that are reported as prose

What is asked of the stripped text and what is asked of the whole text come to the same, since blanks are
characters of prose. A colon is one too, but counts as code, so it is not among the characters that are left.

* `IsPlain t` : the texts that are reported; `readsAsProse_iff`;
* `LetterRuns t runs` : the runs of letters that an excerpt may show; `letterRuns_filter`. In such a text the
  words of letters and underscores are words of letters;
* `LongestStart n s t` : `s` is the longest beginning of `t` with at most `n` characters;
* `IsSpaced s` : letters with single spaces between them; `isSpaced_intercalate`, `IsSpaced.take`;
* `exists_proseExcerpt` : what an excerpt shows;
* `plainText_findings` : which texts are reported as prose, once, and with which excerpt.
-/

namespace CodeSmell

open Text

/-! ## Plain texts -/

/-- Not blank, made of blanks, letters, digits and some marks, and without a keyword among its runs of word
characters. -/
structure IsPlain (t : Text) : Prop where
  content : ∃ c ∈ t, isSpace c = false
  chars : ∀ c ∈ t, isSpace c = true ∨ isAsciiLetter c = true ∨ isAsciiDigit c = true ∨
    c ∈ ".,'\";!?()-".toList
  noKeyword : ∀ i w, RunAt t i w →
    w ∉ ["def", "class", "import", "from", "if", "for", "while", "return"].map String.toList

theorem marks_subset : ".,'\";!?()-".toList ⊆ ".,'\":;!?()-".toList := by
  decide

/-- The characters of prose other than the colon. -/
theorem isProseChar_and_ne_colon_iff {c : Char} :
    isProseChar c = true ∧ c ≠ ':' ↔
      isSpace c = true ∨ isAsciiLetter c = true ∨ isAsciiDigit c = true ∨ c ∈ ".,'\";!?()-".toList := by
  constructor
  · rintro ⟨hprose, hcolon⟩
    simp only [isProseChar, Bool.or_eq_true, List.contains_iff_mem] at hprose
    rcases hprose with ((hletter | hdigit) | hspace) | hmark
    · exact Or.inr (Or.inl hletter)
    · exact Or.inr (Or.inr (Or.inl hdigit))
    · exact Or.inl hspace
    · refine Or.inr (Or.inr (Or.inr ?_))
      simpa [hcolon] using hmark
  · intro h
    refine ⟨?_, ?_⟩
    · simp only [isProseChar, Bool.or_eq_true, List.contains_iff_mem]
      rcases h with hspace | hletter | hdigit | hmark
      · exact Or.inl (Or.inr hspace)
      · exact Or.inl (Or.inl (Or.inl hletter))
      · exact Or.inl (Or.inl (Or.inr hdigit))
      · refine Or.inr ?_
        exact marks_subset hmark
    · rintro rfl
      exact absurd h (by decide)

theorem readsAsProse_iff {t : Text} : readsAsProse t = true ↔ IsPlain t := by
  constructor
  · intro h
    have hprose := isProse_of_readsAsProse h
    refine ⟨?_, fun c hc => ?_, fun i w hw => hprose.noKeyword w (mem_words_iff.mpr ⟨i, hw⟩)⟩
    · simp only [readsAsProse, isEmpty_strip, Bool.and_eq_true, Bool.not_eq_true'] at h
      simpa using h.1.2
    · exact isProseChar_and_ne_colon_iff.mp ⟨hprose.chars c hc, fun he => hprose.noColon (he ▸ hc)⟩
  · intro h
    have hchars : ∀ c ∈ t, isProseChar c = true ∧ c ≠ ':' :=
      fun c hc => isProseChar_and_ne_colon_iff.mpr (h.chars c hc)
    have hcolon : t.contains ':' = false := by
      rw [Bool.eq_false_iff, ne_eq, List.contains_iff_mem]
      exact fun hmem => (hchars _ hmem).2 rfl
    have hwords : (words t).any codeKeywords.contains = false := by
      rw [List.any_eq_false]
      intro w hw hkeyword
      obtain ⟨i, hrun⟩ := mem_words_iff.mp hw
      exact h.noKeyword i w hrun (List.contains_iff_mem.mp hkeyword)
    have hcontent : t.all isSpace = false := by
      rw [List.all_eq_false]
      simpa using h.content
    have hall : t.all isProseChar = true := List.all_eq_true.mpr fun c hc => (hchars c hc).1
    rw [readsAsProse, hasCodeToken, isEmpty_strip, all_strip fun _ => isProseChar_of_isSpace, hcolon, hwords,
      hcontent, hall]
    rfl

/-! ## Runs of letters -/

/-- At the place `i` stands a run of at least three characters that are all letters. -/
def LetterRunAt (t : Text) (i : ℕ) (w : Text) : Prop :=
  RunAt t i w ∧ 3 ≤ w.length ∧ ∀ c ∈ w, isAsciiLetter c = true

/-- The runs of letters with their places, from left to right. -/
structure LetterRuns (t : Text) (runs : List (ℕ × Text)) : Prop where
  inOrder : runs.Pairwise fun p q => p.1 < q.1
  mem_iff : ∀ i w, (i, w) ∈ runs ↔ LetterRunAt t i w

theorem LetterRuns.eq_nil_iff {t : Text} {runs : List (ℕ × Text)} (h : LetterRuns t runs) :
    runs = [] ↔ ¬ ∃ i w, LetterRunAt t i w := by
  simp only [List.eq_nil_iff_forall_not_mem, Prod.forall, h.mem_iff, not_exists]

theorem IsPlain.underscore_notMem {t : Text} (h : IsPlain t) : '_' ∉ t := by
  intro hmem
  exact absurd (h.chars '_' hmem) (by decide)

/-- The word of an excerpt may have underscores, but a plain text has none. -/
theorem isExcerptWord_iff {t : Text} (h : IsPlain t) {i : ℕ} {w : Text} (hw : RunAt t i w) :
    isExcerptWord w = true ↔ 3 ≤ w.length ∧ ∀ c ∈ w, isAsciiLetter c = true := by
  have hnone : ∀ c ∈ w, c ≠ '_' := by
    rintro c hc rfl
    obtain ⟨front, back, rfl, -⟩ := hw
    exact h.underscore_notMem (List.mem_append_right _ (List.mem_append_left _ hc))
  simp only [isExcerptWord, Bool.and_eq_true, decide_eq_true_eq, List.all_eq_true, Bool.or_eq_true, beq_iff_eq]
  refine and_congr_right fun _ => forall₂_congr fun c hc => ?_
  rw [or_iff_left (hnone c hc)]

theorem letterRuns_filter {t : Text} (h : IsPlain t) {runs : List (ℕ × Text)} (hruns : AllRuns t runs) :
    LetterRuns t (runs.filter (isExcerptWord ·.2)) where
  inOrder := hruns.inOrder.filter _
  mem_iff i w := by
    rw [List.mem_filter, hruns.mem_iff]
    exact and_congr_right fun hw => isExcerptWord_iff h hw

/-- The words that an excerpt may show are the runs of letters. -/
theorem exists_letterRuns {t : Text} (h : IsPlain t) :
    ∃ runs, LetterRuns t runs ∧ runs.map Prod.snd = (words t).filter isExcerptWord := by
  obtain ⟨runs, hruns, hwords⟩ := allRuns_words t
  refine ⟨_, letterRuns_filter h hruns, ?_⟩
  rw [← hwords, List.filter_map]
  rfl

/-! ## Excerpts -/

/-- The longest beginning with at most `n` characters. -/
structure LongestStart (n : ℕ) (s t : Text) : Prop where
  starts : s <+: t
  short : s.length ≤ n
  longest : ∀ u, u <+: t → u.length ≤ n → u <+: s

theorem longestStart_take (n : ℕ) (t : Text) : LongestStart n (t.take n) t where
  starts := List.take_prefix n t
  short := List.length_take_le n t
  longest _ hu hlength := List.prefix_take_iff.mpr ⟨hu, hlength⟩

/-- Letters and single spaces, with a letter in front. -/
structure IsSpaced (s : Text) : Prop where
  first : ∃ c ∈ s.head?, isAsciiLetter c = true
  chars : ∀ c ∈ s, isAsciiLetter c = true ∨ c = ' '
  single : s.IsChain fun a b => ¬ (a = ' ' ∧ b = ' ')

theorem ne_space_of_isAsciiLetter {c : Char} (h : isAsciiLetter c = true) : c ≠ ' ' := by
  rintro rfl
  exact absurd h (by decide)

theorem isSpaced_of_letters {w : Text} (hne : w ≠ []) (hw : ∀ c ∈ w, isAsciiLetter c = true) :
    IsSpaced w where
  first := ⟨w.head hne, List.head?_eq_some_head hne, hw _ (List.head_mem hne)⟩
  chars c hc := Or.inl (hw c hc)
  single := by
    refine (List.pairwise_of_forall_mem_list fun a ha b _ hspaces => ?_).isChain
    exact ne_space_of_isAsciiLetter (hw a ha) hspaces.1

/-- A word is put in front with a space, which then stands between two letters. -/
theorem IsSpaced.append {w s : Text} (hs : IsSpaced s) (hne : w ≠ [])
    (hw : ∀ c ∈ w, isAsciiLetter c = true) : IsSpaced (w ++ [' '] ++ s) := by
  have hword := isSpaced_of_letters hne hw
  refine ⟨?_, fun c hc => ?_, ?_⟩
  · obtain ⟨c, hc, hletter⟩ := hword.first
    refine ⟨c, ?_, hletter⟩
    rw [List.append_assoc, List.head?_append, Option.mem_def.mp hc]
    rfl
  · rw [List.mem_append, List.mem_append, List.mem_singleton] at hc
    rcases hc with (hc | hc) | hc
    · exact hword.chars c hc
    · exact Or.inr hc
    · exact hs.chars c hc
  · rw [List.append_assoc, List.singleton_append]
    refine List.isChain_append.mpr ⟨hword.single, List.isChain_cons.mpr ⟨fun b hb hspaces => ?_, hs.single⟩, ?_⟩
    · obtain ⟨c, hc, hletter⟩ := hs.first
      obtain rfl : b = c := Option.mem_unique hb hc
      exact ne_space_of_isAsciiLetter hletter hspaces.2
    · intro a ha _ _ hspaces
      exact ne_space_of_isAsciiLetter (hw a (List.mem_of_getLast? ha)) hspaces.1

theorem isSpaced_intercalate {ws : List Text} (hne : ws ≠ [])
    (hws : ∀ w ∈ ws, w ≠ [] ∧ ∀ c ∈ w, isAsciiLetter c = true) : IsSpaced ([' '].intercalate ws) := by
  induction ws with
  | nil => exact absurd rfl hne
  | cons w ws ih =>
    obtain ⟨hwne, hw⟩ := hws w List.mem_cons_self
    cases ws with
    | nil =>
      rw [List.intercalate_singleton]
      exact isSpaced_of_letters hwne hw
    | cons v ws =>
      rw [List.intercalate_cons_cons]
      exact (ih (List.cons_ne_nil v ws) fun u hu => hws u (List.mem_cons_of_mem _ hu)).append hwne hw

theorem IsSpaced.take {s : Text} (h : IsSpaced s) {n : ℕ} (hn : n ≠ 0) : IsSpaced (s.take n) where
  first := by
    rw [List.head?_take, if_neg hn]
    exact h.first
  chars c hc := h.chars c (List.mem_of_mem_take hc)
  single := h.single.take n

/-- There is no excerpt without runs of letters. -/
theorem proseExcerpt_eq_none {t : Text} (h : (words t).filter isExcerptWord = []) : proseExcerpt t = none := by
  simp [proseExcerpt, h]

/-- The excerpt shows the first runs of letters, as far as there is room. -/
theorem exists_proseExcerpt {t : Text} {runs : List (ℕ × Text)} (hruns : LetterRuns t runs)
    (hwords : runs.map Prod.snd = (words t).filter isExcerptWord) (hne : runs ≠ []) :
    ∃ s, proseExcerpt t = some s ∧
      LongestStart 120 s ([' '].intercalate ((runs.take 50).map Prod.snd)) ∧ IsSpaced s := by
  have hspaced : IsSpaced ([' '].intercalate ((runs.take 50).map Prod.snd)) := by
    refine isSpaced_intercalate (by simpa using hne) fun w hw => ?_
    obtain ⟨⟨i, w⟩, hrun, rfl⟩ := List.mem_map.mp hw
    obtain ⟨-, hlength, hletters⟩ := (hruns.mem_iff i w).mp (List.mem_of_mem_take hrun)
    exact ⟨List.ne_nil_of_length_pos (by simp only; omega), hletters⟩
  have htake := hspaced.take (n := 120) (by decide)
  have hshown : (([' '].intercalate ((runs.take 50).map Prod.snd)).take 120).isEmpty = false := by
    obtain ⟨c, hc, -⟩ := htake.first
    rw [List.isEmpty_eq_false_iff]
    rintro he
    rw [he] at hc
    cases hc
  refine ⟨_, ?_, longestStart_take 120 _, htake⟩
  simp only [proseExcerpt, ← hwords, ← List.map_take, hshown, Bool.false_eq_true, if_false]

/-! ## The report of a plain text -/

/-- The findings under the rule for prose. -/
theorem filter_plainText (t : Text) :
    (analyze t).filter (·.rule = Rule.plainText.name) =
      if readsAsProse t then [Smell.plainText.finding none (proseExcerpt t)] else [] :=
  filter_isOf_rule (c := .plainText) (by decide) t

/-- **Exactly the plain texts are reported as prose.** Each is reported once, with no snippet if it has no run of
three letters or more, and otherwise with the longest beginning of its first fifty such runs that has at most
120 characters. -/
theorem plainText_findings (t : Text) :
    ((∃ f ∈ analyze t, f.rule = Rule.plainText.name) ↔ IsPlain t) ∧
    (IsPlain t → ∃ runs snippet, LetterRuns t runs ∧
      (analyze t).filter (·.rule = Rule.plainText.name) = [Smell.plainText.finding none snippet] ∧
      (snippet = none ↔ ¬ ∃ i w, LetterRunAt t i w) ∧
      ∀ s ∈ snippet, LongestStart 120 s ([' '].intercalate ((runs.take 50).map Prod.snd)) ∧ IsSpaced s) := by
  have hreported : IsPlain t → (analyze t).filter (·.rule = Rule.plainText.name) =
      [Smell.plainText.finding none (proseExcerpt t)] := by
    intro h
    rw [filter_plainText, if_pos (readsAsProse_iff.mpr h)]
  refine ⟨⟨fun h => readsAsProse_iff.mp (readsAsProse_of_reported h), fun h => ?_⟩, fun h => ?_⟩
  · have hmem : Smell.plainText.finding none (proseExcerpt t) ∈
        (analyze t).filter (·.rule = Rule.plainText.name) := by
      rw [hreported h]
      exact List.mem_singleton_self _
    exact ⟨_, (List.mem_filter.mp hmem).1, rfl⟩
  · obtain ⟨runs, hruns, hwords⟩ := exists_letterRuns h
    refine ⟨runs, proseExcerpt t, hruns, hreported h, ?_⟩
    rw [← hruns.eq_nil_iff]
    by_cases hne : runs = []
    · have hnone := proseExcerpt_eq_none (t := t) (by rw [← hwords, hne, List.map_nil])
      simp [hnone, hne]
    · obtain ⟨s, hs, hshown⟩ := exists_proseExcerpt hruns hwords hne
      rw [hs]
      refine ⟨by simp [hne], fun u hu => ?_⟩
      rwa [← Option.mem_some.mp hu]

/-- An em space in front and a line feed behind; short words and words with digits are not shown. -/
theorem plainText_findings_greeting :
    IsPlain "\u2003Hello, big world 42 of a1b2!\n".toList ∧
      (analyze "\u2003Hello, big world 42 of a1b2!\n".toList).filter (·.rule = Rule.plainText.name) =
        [Smell.plainText.finding none (some "Hello big world".toList)] ∧
      ∃ runs snippet, LetterRuns "\u2003Hello, big world 42 of a1b2!\n".toList runs ∧
        (analyze "\u2003Hello, big world 42 of a1b2!\n".toList).filter (·.rule = Rule.plainText.name) =
          [Smell.plainText.finding none snippet] ∧
        (snippet = none ↔ ¬ ∃ i w, LetterRunAt "\u2003Hello, big world 42 of a1b2!\n".toList i w) ∧
        ∀ s ∈ snippet, LongestStart 120 s ([' '].intercalate ((runs.take 50).map Prod.snd)) ∧
          IsSpaced s := by
  have hplain : IsPlain "\u2003Hello, big world 42 of a1b2!\n".toList :=
    readsAsProse_iff.mp (by decide +kernel)
  exact ⟨hplain, by decide +kernel, (plainText_findings _).2 hplain⟩

end CodeSmell
