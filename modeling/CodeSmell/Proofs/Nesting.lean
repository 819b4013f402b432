import CodeSmell.Proofs.Scan.Checks
import Mathlib.Algebra.Order.Group.Int
import Mathlib.Data.List.GetD
import Mathlib.Order.Bounds.Image
import Mathlib.Order.Interval.Finset.Nat

/-!
# How deep the indentation goes

The estimate of the depth goes up on a line that is wider than the one before and down on a narrower one,
but never below zero. So it is a walk that is pushed up whenever it would fall below its lowest place, and
the greatest depth is the greatest rise of the walk that is not pushed.

* `steps r widths i j`, `indents`, `dedents` : how many of the lines after line `i` up to line `j` stand in
  the relation `r` to the line before, and how many are wider or narrower than it;
* `climb widths j` : the indents less the dedents up to line `j`; `climb_concat` : one line more;
* `rises widths`, `risesTo widths j` : the differences of two climbs, and those that end at line `j`;
* `Tracks widths s` : the depth is the greatest rise up to the last line and the greatest depth is the
  greatest rise of all; `Tracks.step`, `tracks_foldl`;
* `deepNesting_findings` : deep nesting is found exactly where some lines have five indents more than
  dedents, and its levels are the greatest rise.
-/

namespace CodeSmell

namespace Nesting

open Finset

/-! ## Indents and dedents -/

/-- The width of the line `k`, where lines count from one. Before the first line there is no indentation. -/
def widthAt (widths : List ℕ) (k : ℕ) : ℕ :=
  (0 :: widths).getD k 0

/-- How many of the lines after line `i` up to line `j` stand in the relation `r` to the line before. -/
def steps (r : ℕ → ℕ → Prop) [DecidableRel r] (widths : List ℕ) (i j : ℕ) : ℕ :=
  ((Ioc i j).filter fun k => r (widthAt widths (k - 1)) (widthAt widths k)).card

def indents (widths : List ℕ) (i j : ℕ) : ℕ :=
  steps (· < ·) widths i j

def dedents (widths : List ℕ) (i j : ℕ) : ℕ :=
  steps (· > ·) widths i j

/-- The indents less the dedents up to line `j`. -/
def climb (widths : List ℕ) (j : ℕ) : ℤ :=
  indents widths 0 j - dedents widths 0 j

theorem steps_add (r : ℕ → ℕ → Prop) [DecidableRel r] (widths : List ℕ) {i j k : ℕ} (hij : i ≤ j)
    (hjk : j ≤ k) : steps r widths i j + steps r widths j k = steps r widths i k := by
  unfold steps
  rw [← Ioc_union_Ioc_eq_Ioc hij hjk, filter_union, card_union_of_disjoint]
  exact disjoint_filter_filter (Ioc_disjoint_Ioc_of_le le_rfl)

/-- The climb between two lines is made of the indents and dedents between them. -/
theorem climb_sub (widths : List ℕ) {i j : ℕ} (h : i ≤ j) :
    climb widths j - climb widths i = indents widths i j - dedents widths i j := by
  have hin := steps_add (· < ·) widths (Nat.zero_le i) h
  have hde := steps_add (· > ·) widths (Nat.zero_le i) h
  unfold climb indents dedents
  omega

/-! ## One line more -/

theorem widthAt_concat_of_le {widths : List ℕ} {k : ℕ} (h : k ≤ widths.length) (w : ℕ) :
    widthAt (widths ++ [w]) k = widthAt widths k := by
  rw [widthAt, widthAt, ← List.cons_append]
  exact List.getD_append _ _ _ _ (by rw [List.length_cons]; omega)

theorem widthAt_concat_length (widths : List ℕ) (w : ℕ) :
    widthAt (widths ++ [w]) (widths.length + 1) = w := by
  simp [widthAt]

section
variable (r : ℕ → ℕ → Prop) [DecidableRel r]

theorem steps_concat_of_le {widths : List ℕ} {j : ℕ} (h : j ≤ widths.length) (w : ℕ) :
    steps r (widths ++ [w]) 0 j = steps r widths 0 j := by
  unfold steps
  congr 1
  refine filter_congr fun k hk => ?_
  have hkj := (mem_Ioc.mp hk).2
  rw [widthAt_concat_of_le (by omega), widthAt_concat_of_le (by omega)]

theorem steps_concat (widths : List ℕ) (w : ℕ) :
    steps r (widths ++ [w]) widths.length (widths.length + 1) =
      if r (widthAt widths widths.length) w then 1 else 0 := by
  rw [steps, Nat.Ioc_succ_singleton, filter_singleton, Nat.add_sub_cancel, widthAt_concat_length,
    widthAt_concat_of_le le_rfl]
  split_ifs <;> rfl

end

theorem climb_concat_of_le {widths : List ℕ} {j : ℕ} (h : j ≤ widths.length) (w : ℕ) :
    climb (widths ++ [w]) j = climb widths j := by
  unfold climb indents dedents
  rw [steps_concat_of_le _ h, steps_concat_of_le _ h]

/-- What a line of width `w` after a line of width `v` adds to the climb. -/
def tilt (v w : ℕ) : ℤ :=
  if v < w then 1 else if w < v then -1 else 0

theorem climb_concat (widths : List ℕ) (w : ℕ) :
    climb (widths ++ [w]) (widths.length + 1) =
      climb widths widths.length + tilt (widthAt widths widths.length) w := by
  have hsub := climb_sub (widths ++ [w]) (Nat.le_add_right widths.length 1)
  rw [indents, dedents, steps_concat, steps_concat, climb_concat_of_le le_rfl] at hsub
  unfold tilt
  split_ifs at hsub ⊢ <;> omega

/-! ## Rises -/

/-- The rises of the climb that end at line `j`. -/
def risesTo (widths : List ℕ) (j : ℕ) : Set ℤ :=
  {d | ∃ i ≤ j, d = climb widths j - climb widths i}

def rises (widths : List ℕ) : Set ℤ :=
  {d | ∃ i j, i ≤ j ∧ j ≤ widths.length ∧ d = climb widths j - climb widths i}

/-- A rise to the last line is that line alone, or comes from a rise to the line before. -/
theorem risesTo_concat (widths : List ℕ) (w : ℕ) :
    risesTo (widths ++ [w]) (widths.length + 1) =
      insert 0 ((· + tilt (widthAt widths widths.length) w) '' risesTo widths widths.length) := by
  ext d
  simp only [risesTo, Set.mem_insert_iff, Set.mem_image, Set.mem_ofPred_eq, climb_concat]
  constructor
  · rintro ⟨i, hi, rfl⟩
    rcases Nat.le_succ_iff.mp hi with hi | rfl
    · refine Or.inr ⟨_, ⟨i, hi, rfl⟩, ?_⟩
      rw [climb_concat_of_le hi]
      omega
    · left
      rw [climb_concat, sub_self]
  · rintro (rfl | ⟨_, ⟨i, hi, rfl⟩, rfl⟩)
    · refine ⟨widths.length + 1, le_rfl, ?_⟩
      rw [climb_concat, sub_self]
    · refine ⟨i, by omega, ?_⟩
      rw [climb_concat_of_le hi]
      omega

theorem rises_concat (widths : List ℕ) (w : ℕ) :
    rises (widths ++ [w]) = rises widths ∪ risesTo (widths ++ [w]) (widths.length + 1) := by
  ext d
  simp only [rises, risesTo, Set.mem_union, Set.mem_ofPred_eq, List.length_append, List.length_singleton]
  constructor
  · rintro ⟨i, j, hij, hj, rfl⟩
    rcases Nat.le_succ_iff.mp hj with hj | rfl
    · refine Or.inl ⟨i, j, hij, hj, ?_⟩
      rw [climb_concat_of_le hj, climb_concat_of_le (hij.trans hj)]
    · exact Or.inr ⟨i, hij, rfl⟩
  · rintro (⟨i, j, hij, hj, rfl⟩ | ⟨i, hi, rfl⟩)
    · refine ⟨i, j, hij, by omega, ?_⟩
      rw [climb_concat_of_le hj, climb_concat_of_le (hij.trans hj)]
    · exact ⟨i, widths.length + 1, hi, le_rfl, rfl⟩

/-! ## The estimate -/

/-- The estimate `s` after lines with these widths. -/
structure Tracks (widths : List ℕ) (s : Nesting) : Prop where
  width : s.width = widthAt widths widths.length
  depth : IsGreatest (risesTo widths widths.length) (s.depth : ℤ)
  deepest : IsGreatest (rises widths) (s.deepest : ℤ)

theorem cast_depth_step (s : Nesting) (w : ℕ) :
    ((s.step w).depth : ℤ) = max 0 (s.depth + tilt s.width w) := by
  unfold step tilt
  dsimp only
  split_ifs <;> omega

theorem Tracks.step {widths : List ℕ} {s : Nesting} (h : Tracks widths s) (w : ℕ) :
    Tracks (widths ++ [w]) (s.step w) := by
  have hlength : (widths ++ [w]).length = widths.length + 1 := by simp
  have hdepth : IsGreatest (risesTo (widths ++ [w]) (widths.length + 1)) ((s.step w).depth : ℤ) := by
    rw [risesTo_concat, cast_depth_step, h.width]
    refine IsGreatest.insert 0 (Monotone.map_isGreatest ?_ h.depth)
    exact fun a b hab => Int.add_le_add_right hab _
  refine ⟨?_, by rwa [hlength], ?_⟩
  · rw [hlength, widthAt_concat_length]
    rfl
  · have hdeepest : ((s.step w).deepest : ℤ) = max (s.deepest : ℤ) (s.step w).depth := by
      simp only [Nesting.step]
      omega
    rw [rises_concat, hdeepest]
    exact h.deepest.union hdepth

theorem tracks_nil : Tracks [] {} := by
  have hzero : climb [] 0 = 0 := by decide
  refine ⟨rfl, ⟨⟨0, le_rfl, ?_⟩, ?_⟩, ⟨⟨0, 0, le_rfl, le_rfl, ?_⟩, ?_⟩⟩
  · simp
  · rintro d ⟨i, hi, rfl⟩
    rw [Nat.le_zero.mp hi, List.length_nil, hzero]
    simp
  · simp
  · rintro d ⟨i, j, hij, hj, rfl⟩
    rw [List.length_nil, Nat.le_zero] at hj
    subst hj
    rw [Nat.le_zero.mp hij, hzero]
    simp

theorem tracks_foldl (widths : List ℕ) : Tracks widths (widths.foldl step {}) := by
  induction widths using List.reverseRecOn with
  | nil => exact tracks_nil
  | append_singleton widths w ih =>
    rw [List.foldl_append, List.foldl_cons, List.foldl_nil]
    exact ih.step w

theorem isGreatest_deepestOf (widths : List ℕ) : IsGreatest (rises widths) (deepestOf widths : ℤ) :=
  (tracks_foldl widths).deepest

/-- Some lines have `n` indents more than dedents exactly when the greatest depth is `n` or more. -/
theorem le_deepestOf_iff {widths : List ℕ} {n : ℕ} :
    n ≤ deepestOf widths ↔
      ∃ i j, i ≤ j ∧ j ≤ widths.length ∧ dedents widths i j + n ≤ indents widths i j := by
  have hgreatest := isGreatest_deepestOf widths
  constructor
  · intro h
    obtain ⟨i, j, hij, hj, hd⟩ := hgreatest.1
    refine ⟨i, j, hij, hj, ?_⟩
    rw [climb_sub widths hij] at hd
    omega
  · rintro ⟨i, j, hij, hj, hle⟩
    have hrise := hgreatest.2 ⟨i, j, hij, hj, rfl⟩
    rw [climb_sub widths hij] at hrise
    omega

end Nesting

open Nesting

/-- **Deep nesting is a rise of the indentation.** For any lines the greatest depth is the greatest
difference of two climbs. So the analysis of a text finds deep nesting exactly when some lines in a row have
at least five indents more than dedents, finds it once, and tells the greatest difference. -/
theorem deepNesting_findings :
    (∀ lines : List Text, IsGreatest (rises (lines.map Line.indentWidth))
      (deepestOf (lines.map Line.indentWidth) : ℤ)) ∧
    ∀ t : Text, ∃ levels : ℕ, IsGreatest (rises (t.lines.map Line.indentWidth)) (levels : ℤ) ∧
      ((∃ f ∈ analyze t, f.rule = Rule.deepNesting.name) ↔
        ∃ i j, i ≤ j ∧ j ≤ t.lines.length ∧ dedents (t.lines.map Line.indentWidth) i j + 5 ≤
          indents (t.lines.map Line.indentWidth) i j) ∧
      ((∃ f ∈ analyze t, f.rule = Rule.deepNesting.name) →
        (analyze t).filter (·.rule = Rule.deepNesting.name) = [(Smell.deepNesting levels).inFile]) := by
  refine ⟨fun lines => isGreatest_deepestOf _, fun t => ⟨_, isGreatest_deepestOf _, ?_⟩⟩
  have hfound : (analyze t).filter (·.rule = Rule.deepNesting.name) =
      if 5 ≤ deepestOf (t.lines.map Line.indentWidth) then
        [(Smell.deepNesting (deepestOf (t.lines.map Line.indentWidth))).inFile] else [] :=
    filter_isOf_rule (c := .deepNesting) (by decide) t
  have hiff : (∃ f ∈ analyze t, f.rule = Rule.deepNesting.name) ↔
      5 ≤ deepestOf (t.lines.map Line.indentWidth) := by
    have hne : (∃ f ∈ analyze t, f.rule = Rule.deepNesting.name) ↔
        (analyze t).filter (·.rule = Rule.deepNesting.name) ≠ [] := by
      simp [List.filter_eq_nil_iff]
    rw [hne, hfound]
    split_ifs with h <;> simp [h]
  refine ⟨?_, fun h => ?_⟩
  · rw [hiff, le_deepestOf_iff, List.length_map]
  · rw [hfound, if_pos (hiff.mp h)]

/-- Two indents, a dedent and four indents are five levels. -/
theorem deepNesting_findings_five :
    (analyze "a\n b\n  c\n d\n  e\n   f\n    g\n     h\n".toList).filter
      (·.rule = Rule.deepNesting.name) = [(Smell.deepNesting 5).inFile] := by
  obtain ⟨hdeepest, htext⟩ := deepNesting_findings
  obtain ⟨levels, hlevels, hiff, hfound⟩ :=
    htext "a\n b\n  c\n d\n  e\n   f\n    g\n     h\n".toList
  obtain rfl : levels = 5 := Int.ofNat_inj.mp (hlevels.unique (hdeepest _))
  exact hfound (hiff.mpr ⟨0, 8, by decide, by decide, by decide⟩)

end CodeSmell
