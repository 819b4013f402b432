import CodeSmell.Proofs.Text.Words
import Mathlib.Data.Set.Card

/-!
# Runs of word characters

A word is a run of word characters that cannot be made longer. Here the runs are told by their places, without
a reader of the text.

* `RunAt t i w` : the run `w` stands at the place `i` of the text `t`;
* `runAt_cons`, `runAt_append` : the runs of a text that has something more in front;
* `AllRuns t runs` : the runs of the text with their places, from left to right;
* `allRuns_words` : the words of a text are all its runs, and `mem_words_iff` : each word is one;
* `encard_runAt` : how many runs are equal to a name;
* `occurrences_runs` : a name of word characters is counted once for each such run, line by line too.
-/

namespace CodeSmell.Text

/-- At the place `i` of the text stands `w`, made of word characters, with no word character right before or
right behind it. -/
def RunAt (t : Text) (i : ℕ) (w : Text) : Prop :=
  ∃ front back, t = front ++ (w ++ back) ∧ front.length = i ∧ w ≠ [] ∧ (∀ c ∈ w, isWord c = true) ∧
    (∀ c ∈ front.getLast?, isWord c = false) ∧ ∀ c ∈ back.head?, isWord c = false

theorem not_runAt_nil (i : ℕ) (w : Text) : ¬ RunAt [] i w := by
  rintro ⟨front, back, ht, -, hne, -⟩
  have hnil := (List.append_eq_nil_iff.mp (List.append_eq_nil_iff.mp ht.symm).2).1
  exact hne hnil

/-- A character that is in no word moves all runs on by one place. -/
theorem runAt_cons {c : Char} (hc : isWord c = false) {t w : Text} {i : ℕ} :
    RunAt (c :: t) i w ↔ ∃ j, i = 1 + j ∧ RunAt t j w := by
  constructor
  · rintro ⟨front, back, ht, rfl, hne, hw, hfront, hback⟩
    cases front with
    | nil =>
      obtain ⟨d, w, rfl⟩ := List.exists_cons_of_ne_nil hne
      rw [List.nil_append, List.cons_append, List.cons_eq_cons] at ht
      have hd := hw d List.mem_cons_self
      rw [← ht.1, hc] at hd
      cases hd
    | cons d front =>
      rw [List.cons_append, List.cons_eq_cons] at ht
      refine ⟨front.length, by simp [Nat.add_comm], front, back, ht.2, rfl, hne, hw, fun e he => ?_, hback⟩
      apply hfront e
      rw [List.getLast?_cons, Option.mem_def.mp he]
      rfl
  · rintro ⟨j, rfl, front, back, rfl, rfl, hne, hw, hfront, hback⟩
    refine ⟨c :: front, back, rfl, by simp [Nat.add_comm], hne, hw, fun e he => ?_, hback⟩
    rw [List.getLast?_cons, Option.mem_some] at he
    cases hlast : front.getLast? with
    | none =>
      rw [hlast, Option.getD_none] at he
      rwa [← he]
    | some d =>
      rw [hlast, Option.getD_some] at he
      exact hfront e (by rw [hlast, he]; rfl)

/-- A run in front is one run more, and moves the others on by its length. -/
theorem runAt_append {v t : Text} (hne : v ≠ []) (hv : ∀ c ∈ v, isWord c = true)
    (ht : startsInWord t = false) {w : Text} {i : ℕ} :
    RunAt (v ++ t) i w ↔ (i = 0 ∧ w = v) ∨ ∃ j, i = v.length + j ∧ RunAt t j w := by
  constructor
  · rintro ⟨front, back, hsplit, rfl, hwne, hw, hfront, hback⟩
    by_cases hnil : front = []
    · subst hnil
      have hruns := congrArg (List.takeWhile isWord) hsplit
      rw [List.nil_append, takeWhile_run hv ht, takeWhile_run hw (startsInWord_eq_false_iff.mpr hback)] at hruns
      exact Or.inl ⟨rfl, hruns.symm⟩
    · -- the last character of `front` is in no word, so `front` goes beyond `v`
      have hlast := hfront _ (List.getLast?_eq_some_getLast hnil)
      rcases List.append_eq_append_iff.mp hsplit with ⟨more, rfl, rfl⟩ | ⟨more, rfl, -⟩
      · refine Or.inr ⟨more.length, by simp, more, back, rfl, rfl, hwne, hw, fun e he => ?_, hback⟩
        apply hfront e
        rw [List.getLast?_append, Option.mem_def.mp he]
        rfl
      · have hin := hv _ (List.mem_append_left _ (List.getLast_mem hnil))
        rw [hlast] at hin
        cases hin
  · rintro (⟨rfl, rfl⟩ | ⟨j, rfl, front, back, rfl, rfl, hwne, hw, hfront, hback⟩)
    · exact ⟨[], t, rfl, rfl, hne, hv, by simp, startsInWord_eq_false_iff.mp ht⟩
    · refine ⟨v ++ front, back, by simp, by simp, hwne, hw, fun e he => ?_, hback⟩
      cases front with
      | nil =>
        -- the run would go on from `v`
        obtain ⟨d, w, rfl⟩ := List.exists_cons_of_ne_nil hwne
        have hd := hw d List.mem_cons_self
        rw [show startsInWord ([] ++ (d :: w ++ back)) = isWord d from rfl, hd] at ht
        cases ht
      | cons d front =>
        rw [List.getLast?_append_of_ne_nil _ (List.cons_ne_nil d front)] at he
        exact hfront e he

/-! ## All runs of a text -/

/-- The runs of the text with their places, from left to right. -/
structure AllRuns (t : Text) (runs : List (ℕ × Text)) : Prop where
  inOrder : runs.Pairwise fun p q => p.1 < q.1
  mem_iff : ∀ i w, (i, w) ∈ runs ↔ RunAt t i w

def moveRuns (k : ℕ) (runs : List (ℕ × Text)) : List (ℕ × Text) :=
  runs.map (Prod.map (k + ·) id)

theorem map_snd_moveRuns (k : ℕ) (runs : List (ℕ × Text)) :
    (moveRuns k runs).map Prod.snd = runs.map Prod.snd := by
  rw [moveRuns, List.map_map]
  rfl

theorem mem_moveRuns {k i : ℕ} {w : Text} {runs : List (ℕ × Text)} :
    (i, w) ∈ moveRuns k runs ↔ ∃ j, i = k + j ∧ (j, w) ∈ runs := by
  simp only [moveRuns, List.mem_map, Prod.exists, Prod.map_apply, id_eq, Prod.mk.injEq]
  constructor
  · rintro ⟨j, w', hmem, rfl, rfl⟩
    exact ⟨j, rfl, hmem⟩
  · rintro ⟨j, rfl, hmem⟩
    exact ⟨j, w, hmem, rfl, rfl⟩

theorem pairwise_moveRuns {k : ℕ} {runs : List (ℕ × Text)} (h : runs.Pairwise fun p q => p.1 < q.1) :
    (moveRuns k runs).Pairwise fun p q => p.1 < q.1 := by
  refine List.pairwise_map.mpr (h.imp fun {p q} hlt => ?_)
  simp only [Prod.map_fst]
  omega

/-- **The words of a text are its runs,** in the order in which they stand there. -/
theorem allRuns_words (t : Text) : ∃ runs, AllRuns t runs ∧ runs.map Prod.snd = words t := by
  induction t using runs_induction with
  | nil => exact ⟨[], ⟨List.Pairwise.nil, fun i w => by simp [not_runAt_nil]⟩, rfl⟩
  | other c t hc ih =>
    obtain ⟨runs, hruns, hwords⟩ := ih
    refine ⟨moveRuns 1 runs, ⟨pairwise_moveRuns hruns.inOrder, fun i w => ?_⟩, ?_⟩
    · rw [mem_moveRuns, runAt_cons hc]
      simp only [hruns.mem_iff]
    · rw [map_snd_moveRuns, hwords, words_cons_of_not_isWord hc]
  | run v t hne hv ht ih =>
    obtain ⟨runs, hruns, hwords⟩ := ih
    refine ⟨(0, v) :: moveRuns v.length runs, ⟨?_, fun i w => ?_⟩, ?_⟩
    · refine List.pairwise_cons.mpr ⟨fun p hp => ?_, pairwise_moveRuns hruns.inOrder⟩
      obtain ⟨j, hj, -⟩ := mem_moveRuns.mp hp
      have hlength := List.length_pos_iff.mpr hne
      omega
    · rw [List.mem_cons, Prod.mk.injEq, mem_moveRuns, runAt_append hne hv ht]
      simp only [hruns.mem_iff]
    · rw [List.map_cons, map_snd_moveRuns, hwords, words_run hne hv ht]

theorem mem_words_iff {t w : Text} : w ∈ words t ↔ ∃ i, RunAt t i w := by
  obtain ⟨runs, hruns, hwords⟩ := allRuns_words t
  rw [← hwords]
  simp only [List.mem_map, Prod.exists, exists_eq_right, hruns.mem_iff]

/-! ## Names counted -/

/-- A word stands at as many places as it comes among the words. -/
theorem encard_runAt (t name : Text) : {i | RunAt t i name}.encard = (words t).count name := by
  obtain ⟨runs, hruns, hwords⟩ := allRuns_words t
  have hplaces : {i | RunAt t i name} = (((runs.filter (·.2 = name)).map Prod.fst).toFinset : Set ℕ) := by
    ext i
    simp [hruns.mem_iff]
  have hnodup : ((runs.filter (·.2 = name)).map Prod.fst).Nodup :=
    List.pairwise_map.mpr ((hruns.inOrder.filter _).imp fun h => h.ne)
  have hcount : (runs.filter (·.2 = name)).length = (words t).count name := by
    rw [← hwords, ← List.countP_eq_length_filter, List.count, List.countP_map]
    exact List.countP_congr fun p _ => by simp
  rw [hplaces, Set.encard_coe_eq_coe_finsetCard, List.toFinset_card_of_nodup hnodup, List.length_map, hcount]

/-- **A name is counted once for each run that it is.** A name of word characters is found in a text as often as a run
of word characters, as long as it can be made, is equal to it; and the lines of the text, without their carriage
returns, have as many in all. -/
theorem occurrences_runs {name : Text} (hid : name.isIdentifier = true) (hname : ∀ c ∈ name, isWord c = true)
    (t : Text) :
    ∃ (n : ℕ) (counts : List ℕ), occurrences? name t = some n ∧ {i | RunAt t i name}.encard = n ∧
      t.lines.map (occurrences? name) = counts.map some ∧ n = counts.sum := by
  refine ⟨(words t).count name, t.lines.map fun line => (words line).count name,
    occurrences?_eq_count hid hname t, encard_runAt t name, ?_, ?_⟩
  · rw [List.map_map]
    exact List.map_congr_left fun line _ => occurrences?_eq_count hid hname line
  · rw [← words_lines, List.count_flatMap]
    rfl

/-- The name stands twice: in `cos` and in `os1` it is not the whole run. -/
theorem occurrences_runs_os :
    occurrences? "os".toList "import os\r\ncos(os1, os)".toList = some 2 ∧
      {i | RunAt "import os\r\ncos(os1, os)".toList i "os".toList}.encard = 2 ∧
      (lines "import os\r\ncos(os1, os)".toList).map (occurrences? "os".toList) = [some 1, some 1] := by
  have hname : ∀ c ∈ "os".toList, isWord c = true := List.all_eq_true.mp (by decide)
  obtain ⟨n, counts, hn, hruns, -, -⟩ :=
    occurrences_runs (by decide) hname "import os\r\ncos(os1, os)".toList
  have hfound : occurrences? "os".toList "import os\r\ncos(os1, os)".toList = some 2 := by decide
  rw [hfound] at hn
  cases hn
  exact ⟨hfound, hruns, by decide⟩

end CodeSmell.Text
