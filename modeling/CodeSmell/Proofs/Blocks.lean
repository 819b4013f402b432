import CodeSmell.Proofs.Nesting
import CodeSmell.Proofs.Text.Numerals
import CodeSmell.Proofs.UnusedNames
import Mathlib.Algebra.BigOperators.Group.Finset.Basic

/-!
# The blocks that the indentation opens

A reader of the lines keeps the widths of the open blocks on a stack: a wider line opens a block, and a
narrower one closes all blocks that are wider than it. The estimate of the depth keeps no stack. It goes down
one level on a narrower line, however many blocks that line closes, so it is compared with the stack here.

* `Blocks`, `Blocks.step` : the open blocks and what a line does to them; `closedBy` : how many it closes;
* `blocksAfter widths k`, `nestingAfter widths k` : the open blocks and the estimate after `k` lines;
* `Blocks.Sound` : inner blocks are wider than outer ones; `sound_blocksAfter`;
* `isGreatest_depth` : the greatest depth is that of some line; `reports_deepNesting_iff`;
* `DedentsToOpen widths` : every narrower line goes back to an open block or to the margin;
  `Covers.step`, `covers_after`, and `openBlocks_le_levels` : then no open block is missed;
* `surplus widths k` : the blocks closed beyond the first by each of the first `k` lines;
  `depth_le_add_surplus`, and `levels_le_widths_add_surplus` : levels that are no blocks come from these.
-/

namespace CodeSmell

open Nesting

/-! ## Open blocks -/

/-- The widths of the open blocks, the innermost first, and the width of the last line. -/
structure Blocks where
  opened : List ℕ := []
  width : ℕ := 0
deriving DecidableEq, Repr

namespace Blocks

/-- A wider line opens a block, a narrower one closes all blocks that are wider than it. -/
def step (b : Blocks) (w : ℕ) : Blocks where
  opened := if b.width < w then w :: b.opened
    else if w < b.width then b.opened.dropWhile (w < ·)
    else b.opened
  width := w

def closedBy (b : Blocks) (w : ℕ) : ℕ :=
  if w < b.width then (b.opened.takeWhile (w < ·)).length else 0

variable {b : Blocks} {w : ℕ}

theorem opened_step_of_lt (h : b.width < w) : (b.step w).opened = w :: b.opened :=
  if_pos h

theorem opened_step_of_gt (h : w < b.width) : (b.step w).opened = b.opened.dropWhile (w < ·) := by
  rw [step, if_neg (by omega), if_pos h]

theorem opened_step_self : (b.step b.width).opened = b.opened := by
  rw [step, if_neg (by omega), if_neg (by omega)]

theorem closedBy_of_le (h : b.width ≤ w) : b.closedBy w = 0 :=
  if_neg (by omega)

/-- The number of open blocks changes by the block that is opened or by those that are closed. -/
theorem length_step (b : Blocks) (w : ℕ) : (b.step w).opened.length + b.closedBy w =
    b.opened.length + if b.width < w then 1 else 0 := by
  rcases Nat.lt_trichotomy b.width w with h | rfl | h
  · rw [opened_step_of_lt h, closedBy_of_le h.le, if_pos h]
    rfl
  · rw [opened_step_self, closedBy_of_le le_rfl, if_neg (by omega)]
  · have hsplit := congrArg List.length (List.takeWhile_append_dropWhile (p := (w < ·)) (l := b.opened))
    rw [List.length_append] at hsplit
    rw [opened_step_of_gt h, closedBy, if_pos h, if_neg (by omega)]
    omega

/-- Inner blocks are wider than outer ones, and all have a width above zero that the last line reaches. -/
structure Sound (b : Blocks) : Prop where
  nested : b.opened.Pairwise (· > ·)
  within : ∀ v ∈ b.opened, 0 < v ∧ v ≤ b.width

namespace Sound
variable (h : b.Sound)
include h

/-- What a narrower line leaves open are the blocks that are not wider than it. -/
theorem mem_dropWhile_iff {v : ℕ} : v ∈ b.opened.dropWhile (w < ·) ↔ v ∈ b.opened ∧ v ≤ w := by
  constructor
  · intro hv
    refine ⟨(List.dropWhile_sublist _).subset hv, ?_⟩
    have hnested := h.nested.sublist (List.dropWhile_sublist (w < ·))
    have hhead := List.head?_dropWhile_not (w < ·) b.opened
    cases hrest : b.opened.dropWhile (w < ·) with
    | nil => simp [hrest] at hv
    | cons u rest =>
      rw [hrest] at hv hnested hhead
      have hu : u ≤ w := by simpa using hhead
      rcases List.mem_cons.mp hv with rfl | hv
      · exact hu
      · exact ((List.pairwise_cons.mp hnested).1 v hv).le.trans hu
  · rintro ⟨hv, hle⟩
    rw [← List.takeWhile_append_dropWhile (p := (w < ·)) (l := b.opened), List.mem_append] at hv
    refine hv.resolve_left fun hv => ?_
    have hlt : w < v := by simpa using List.mem_takeWhile_imp hv
    omega

/-- A block that is open after a line is the one that the line opens, or was open and is not wider. -/
theorem of_mem_opened_step {v : ℕ} (hv : v ∈ (b.step w).opened) :
    v = w ∧ b.width < w ∨ v ∈ b.opened ∧ v ≤ w := by
  rcases Nat.lt_trichotomy b.width w with hw | rfl | hw
  · rw [opened_step_of_lt hw, List.mem_cons] at hv
    exact hv.imp (fun hv => ⟨hv, hw⟩) fun hv => ⟨hv, (h.within v hv).2.trans hw.le⟩
  · rw [opened_step_self] at hv
    exact Or.inr ⟨hv, (h.within v hv).2⟩
  · rw [opened_step_of_gt hw, h.mem_dropWhile_iff] at hv
    exact Or.inr hv

theorem step (w : ℕ) : (b.step w).Sound := by
  refine ⟨?_, fun v hv => ?_⟩
  · rcases Nat.lt_trichotomy b.width w with hw | rfl | hw
    · rw [opened_step_of_lt hw]
      exact List.pairwise_cons.mpr ⟨fun v hv => (h.within v hv).2.trans_lt hw, h.nested⟩
    · rw [opened_step_self]
      exact h.nested
    · rw [opened_step_of_gt hw]
      exact h.nested.sublist (List.dropWhile_sublist _)
  · rcases h.of_mem_opened_step hv with ⟨rfl, hw⟩ | ⟨hv, hle⟩
    · exact ⟨by omega, le_rfl⟩
    · exact ⟨(h.within v hv).1, hle⟩

end Sound

end Blocks

/-! ## Line by line -/

/-- The open blocks after the first `k` lines. -/
def blocksAfter (widths : List ℕ) (k : ℕ) : Blocks :=
  (widths.take k).foldl Blocks.step {}

def nestingAfter (widths : List ℕ) (k : ℕ) : Nesting :=
  (widths.take k).foldl Nesting.step {}

section
variable {widths : List ℕ} {k : ℕ} (h : k < widths.length)
include h

theorem foldl_take_succ {σ : Type} (f : σ → ℕ → σ) (s : σ) :
    (widths.take (k + 1)).foldl f s = f ((widths.take k).foldl f s) (widthAt widths (k + 1)) := by
  rw [List.take_succ_eq_append_getElem h, List.foldl_append, List.foldl_cons, List.foldl_nil, widthAt,
    List.getD_cons_succ, List.getD_eq_getElem _ _ h]

theorem blocksAfter_succ :
    blocksAfter widths (k + 1) = (blocksAfter widths k).step (widthAt widths (k + 1)) :=
  foldl_take_succ h _ _

theorem nestingAfter_succ :
    nestingAfter widths (k + 1) = (nestingAfter widths k).step (widthAt widths (k + 1)) :=
  foldl_take_succ h _ _

end

theorem width_blocksAfter {widths : List ℕ} {k : ℕ} (h : k ≤ widths.length) :
    (blocksAfter widths k).width = widthAt widths k := by
  cases k with
  | zero => rfl
  | succ k =>
    rw [blocksAfter_succ h]
    rfl

theorem width_nestingAfter {widths : List ℕ} {k : ℕ} (h : k ≤ widths.length) :
    (nestingAfter widths k).width = widthAt widths k := by
  cases k with
  | zero => rfl
  | succ k =>
    rw [nestingAfter_succ h]
    rfl

theorem sound_blocksAfter {widths : List ℕ} {k : ℕ} (h : k ≤ widths.length) :
    (blocksAfter widths k).Sound := by
  induction k with
  | zero => exact ⟨List.Pairwise.nil, fun v hv => absurd hv List.not_mem_nil⟩
  | succ k ih =>
    rw [blocksAfter_succ h]
    exact (ih (by omega)).step _

theorem mem_of_mem_opened {widths : List ℕ} {k : ℕ} (h : k ≤ widths.length) {v : ℕ}
    (hv : v ∈ (blocksAfter widths k).opened) : v ∈ widths := by
  induction k with
  | zero => exact absurd hv List.not_mem_nil
  | succ k ih =>
    have hk : k < widths.length := h
    rw [blocksAfter_succ hk] at hv
    rcases (sound_blocksAfter hk.le).of_mem_opened_step hv with ⟨rfl, -⟩ | ⟨hv, -⟩
    · rw [widthAt, List.getD_cons_succ, List.getD_eq_getElem _ _ hk]
      exact List.getElem_mem hk
    · exact ih hk.le hv

def indentedWidths (widths : List ℕ) : Finset ℕ :=
  widths.toFinset.erase 0

/-- Open blocks have different widths. -/
theorem length_opened_le {widths : List ℕ} {k : ℕ} (h : k ≤ widths.length) :
    (blocksAfter widths k).opened.length ≤ (indentedWidths widths).card := by
  have hsound := sound_blocksAfter h
  have hnodup : (blocksAfter widths k).opened.Nodup := hsound.nested.imp fun hlt => hlt.ne'
  rw [← List.toFinset_card_of_nodup hnodup]
  refine Finset.card_le_card fun v hv => ?_
  rw [List.mem_toFinset] at hv
  refine Finset.mem_erase.mpr ⟨(hsound.within v hv).1.ne', ?_⟩
  exact List.mem_toFinset.mpr (mem_of_mem_opened h hv)

/-! ## The greatest depth -/

/-- The greatest depth after `k` lines is the depth after one of them. -/
theorem isGreatest_depth {widths : List ℕ} {k : ℕ} (h : k ≤ widths.length) :
    IsGreatest {d | ∃ i ≤ k, d = (nestingAfter widths i).depth} (nestingAfter widths k).deepest := by
  induction k with
  | zero =>
    refine ⟨⟨0, le_rfl, rfl⟩, ?_⟩
    rintro d ⟨i, hi, rfl⟩
    rw [Nat.le_zero.mp hi]
    exact le_rfl
  | succ k ih =>
    have hk : k < widths.length := h
    have hdeepest : (nestingAfter widths (k + 1)).deepest =
        max (nestingAfter widths k).deepest (nestingAfter widths (k + 1)).depth := by
      rw [nestingAfter_succ hk]
      rfl
    obtain ⟨⟨i, hi, hmax⟩, hle⟩ := ih hk.le
    rw [hdeepest]
    refine ⟨?_, ?_⟩
    · rcases max_choice (nestingAfter widths k).deepest (nestingAfter widths (k + 1)).depth with he | he
      · exact ⟨i, by omega, he.trans hmax⟩
      · exact ⟨k + 1, le_rfl, he⟩
    · rintro d ⟨j, hj, rfl⟩
      rcases Nat.le_succ_iff.mp hj with hj | rfl
      · exact (hle ⟨j, hj, rfl⟩).trans (le_max_left _ _)
      · exact le_max_right _ _

theorem deepestOf_eq (widths : List ℕ) :
    deepestOf widths = (nestingAfter widths widths.length).deepest := by
  rw [deepestOf, nestingAfter, List.take_length]

theorem depth_le_deepestOf {widths : List ℕ} {k : ℕ} (h : k ≤ widths.length) :
    (nestingAfter widths k).depth ≤ deepestOf widths := by
  rw [deepestOf_eq]
  exact (isGreatest_depth le_rfl).2 ⟨k, h, rfl⟩

theorem exists_depth_eq_deepestOf (widths : List ℕ) :
    ∃ k ≤ widths.length, deepestOf widths = (nestingAfter widths k).depth := by
  rw [deepestOf_eq]
  exact (isGreatest_depth le_rfl).1

theorem deepNesting_message_injective :
    Function.Injective fun n => (Smell.deepNesting n).message := by
  intro m n h
  exact Text.ofNat_injective (List.append_cancel_left (List.append_cancel_right h))

theorem reports_deepNesting_iff {t : Text} {n : ℕ} :
    Reports t (.deepNesting n) ↔ 5 ≤ n ∧ deepestOf (t.lines.map Line.indentWidth) = n := by
  rw [reports_iff_countP, countP_tells (c := .deepNesting) (by decide) rfl, List.countP_pos_iff,
    Check.findings, Check.findingsIn]
  have hmessage := deepNesting_message_injective.eq_iff (a := deepestOf (t.lines.map Line.indentWidth))
    (b := n)
  by_cases hdeep : maxNesting < deepestOf (t.lines.map Line.indentWidth)
  · simp only [if_pos hdeep, List.mem_singleton, exists_eq_left, Smell.inFile, Smell.finding,
      decide_eq_true_eq, hmessage]
    exact (and_iff_right_of_imp fun hn => hn ▸ hdeep).symm
  · simp only [if_neg hdeep, List.not_mem_nil, false_and, exists_false, false_iff, not_and]
    rintro hn rfl
    exact hdeep hn

/-! ## No block is missed -/

/-- Every line that is narrower than the line before is not indented, or has the width of an open block. -/
def DedentsToOpen (widths : List ℕ) : Prop :=
  ∀ k < widths.length, widthAt widths (k + 1) < widthAt widths k →
    widthAt widths (k + 1) = 0 ∨ widthAt widths (k + 1) ∈ (blocksAfter widths k).opened

instance (widths : List ℕ) : Decidable (DedentsToOpen widths) :=
  inferInstanceAs (Decidable (∀ k < widths.length, _))

/-- The estimate `s` counts every open block, and the last line stands in the innermost one. -/
structure Covers (s : Nesting) (b : Blocks) : Prop where
  sound : b.Sound
  width : s.width = b.width
  innermost : b.opened.headD 0 = b.width
  depth : b.opened.length ≤ s.depth

namespace Covers
variable {s : Nesting} {b : Blocks} (h : Covers s b) {w : ℕ}
include h

/-- A narrower line closes the innermost block at least. -/
theorem closedBy_pos (hw : w < b.width) : 0 < b.closedBy w := by
  have hinnermost := h.innermost
  cases hopened : b.opened with
  | nil =>
    rw [hopened, List.headD_nil] at hinnermost
    omega
  | cons v rest =>
    rw [hopened, List.headD_cons] at hinnermost
    subst hinnermost
    simp [Blocks.closedBy, hw, hopened]

/-- Where a narrower line goes back to an open block, that block is then the innermost one. -/
theorem headD_dropWhile (hw : w = 0 ∨ w ∈ b.opened) : (b.opened.dropWhile (w < ·)).headD 0 = w := by
  have hnested := h.sound.nested.sublist (List.dropWhile_sublist (w < ·))
  have hmem : ∀ v ∈ b.opened.dropWhile (w < ·), v ∈ b.opened ∧ v ≤ w :=
    fun v hv => h.sound.mem_dropWhile_iff.mp hv
  have hleft : w ∈ b.opened → w ∈ b.opened.dropWhile (w < ·) :=
    fun hw => h.sound.mem_dropWhile_iff.mpr ⟨hw, le_rfl⟩
  cases hrest : b.opened.dropWhile (w < ·) with
  | nil =>
    rw [hrest] at hleft
    exact (hw.resolve_right fun hw => List.not_mem_nil (hleft hw)).symm
  | cons v rest =>
    rw [hrest] at hmem hleft hnested
    obtain ⟨hv, hle⟩ := hmem v List.mem_cons_self
    have hpos := (h.sound.within v hv).1
    rcases List.mem_cons.mp (hleft (hw.resolve_left (by omega))) with hv | hw
    · exact hv.symm
    · have hlt := (List.pairwise_cons.mp hnested).1 w hw
      omega

theorem step (hw : w < b.width → w = 0 ∨ w ∈ b.opened) : Covers (s.step w) (b.step w) := by
  have hlength := b.length_step w
  refine ⟨h.sound.step w, rfl, ?_, ?_⟩
  · rcases Nat.lt_trichotomy b.width w with hlt | rfl | hlt
    · rw [Blocks.opened_step_of_lt hlt]
      rfl
    · rw [Blocks.opened_step_self]
      exact h.innermost
    · rw [Blocks.opened_step_of_gt hlt]
      exact h.headD_dropWhile (hw hlt)
  · have hdepth := h.depth
    have hclosed := @closedBy_pos _ _ h w
    simp only [Nesting.step, h.width]
    split_ifs at hlength ⊢ <;> omega

end Covers

theorem covers_after {widths : List ℕ} (h : DedentsToOpen widths) {k : ℕ} (hk : k ≤ widths.length) :
    Covers (nestingAfter widths k) (blocksAfter widths k) := by
  induction k with
  | zero => exact ⟨sound_blocksAfter hk, rfl, rfl, le_rfl⟩
  | succ k ih =>
    have hlt : k < widths.length := hk
    rw [nestingAfter_succ hlt, blocksAfter_succ hlt]
    refine (ih hlt.le).step fun hw => ?_
    rw [width_blocksAfter hlt.le] at hw
    exact h k hlt hw

/-- **No block is missed.** Where every narrower line goes back to an open block or to the margin, the estimate
is after each line at least the number of open blocks, and the greatest depth at least the estimate. So where
five blocks or more are open in a text, deep nesting is reported, with no fewer levels. -/
theorem openBlocks_le_levels :
    (∀ lines : List Text, DedentsToOpen (lines.map Line.indentWidth) → ∀ k ≤ lines.length,
      (blocksAfter (lines.map Line.indentWidth) k).opened.length ≤
          (nestingAfter (lines.map Line.indentWidth) k).depth ∧
        (nestingAfter (lines.map Line.indentWidth) k).depth ≤ deepestOf (lines.map Line.indentWidth)) ∧
    ∀ t : Text, DedentsToOpen (t.lines.map Line.indentWidth) → ∀ k ≤ t.lines.length,
      5 ≤ (blocksAfter (t.lines.map Line.indentWidth) k).opened.length →
      ∃ levels, (blocksAfter (t.lines.map Line.indentWidth) k).opened.length ≤ levels ∧
        Reports t (.deepNesting levels) := by
  refine ⟨fun lines h k hk => ?_, fun t h k hk hfive => ?_⟩
  · rw [← List.length_map Line.indentWidth] at hk
    exact ⟨(covers_after h hk).depth, depth_le_deepestOf hk⟩
  · rw [← List.length_map Line.indentWidth] at hk
    have hle := (covers_after h hk).depth.trans (depth_le_deepestOf hk)
    exact ⟨_, hle, reports_deepNesting_iff.mpr ⟨hfive.trans hle, rfl⟩⟩

/-- Two blocks are closed at once before five are opened. -/
theorem openBlocks_le_levels_five :
    DedentsToOpen ((Text.lines "a\n b\n  c\nd\n e\n  f\n   g\n    h\n     i\n".toList).map Line.indentWidth) ∧
      ∃ levels, 5 ≤ levels ∧
        Reports "a\n b\n  c\nd\n e\n  f\n   g\n    h\n     i\n".toList (.deepNesting levels) := by
  have hopen : DedentsToOpen
      ((Text.lines "a\n b\n  c\nd\n e\n  f\n   g\n    h\n     i\n".toList).map Line.indentWidth) := by
    decide
  exact ⟨hopen, openBlocks_le_levels.2 _ hopen 9 (by decide) (by decide)⟩

/-! ## Levels that are no blocks -/

/-- The blocks that the first `k` lines close, the first one that a line closes not counted. -/
def surplus (widths : List ℕ) (k : ℕ) : ℕ :=
  ∑ i ∈ Finset.range k, ((blocksAfter widths i).closedBy (widthAt widths (i + 1)) - 1)

theorem surplus_succ (widths : List ℕ) (k : ℕ) : surplus widths (k + 1) =
    surplus widths k + ((blocksAfter widths k).closedBy (widthAt widths (k + 1)) - 1) :=
  Finset.sum_range_succ _ k

/-- Where no line closes more than one block, there is no surplus. -/
theorem surplus_eq_zero {widths : List ℕ} {k : ℕ}
    (h : ∀ i < k, (blocksAfter widths i).closedBy (widthAt widths (i + 1)) ≤ 1) : surplus widths k = 0 := by
  refine Finset.sum_eq_zero fun i hi => ?_
  have hle := h i (Finset.mem_range.mp hi)
  omega

/-- A narrower line takes one level off the estimate, and the other blocks that it closes are surplus. -/
theorem depth_le_add_surplus {widths : List ℕ} {k : ℕ} (h : k ≤ widths.length) :
    (nestingAfter widths k).depth ≤ (blocksAfter widths k).opened.length + surplus widths k := by
  induction k with
  | zero => exact le_rfl
  | succ k ih =>
    have hk : k < widths.length := h
    have hdepth := ih hk.le
    have hlength := (blocksAfter widths k).length_step (widthAt widths (k + 1))
    have hclosed := @Blocks.closedBy_of_le (blocksAfter widths k) (widthAt widths (k + 1))
    rw [width_blocksAfter hk.le] at hlength hclosed
    rw [nestingAfter_succ hk, blocksAfter_succ hk, surplus_succ]
    simp only [Nesting.step, width_nestingAfter hk.le]
    split_ifs at hlength ⊢ <;> omega

/-- **Levels are blocks or surplus.** Where deep nesting of `n` levels is reported, the estimate is `n` after some
line. Wherever it is, the distinct widths of the indented lines and the surplus up to there are together at least
`n`. So where no line up to there closes more than one block, the text has lines of `n` distinct widths. -/
theorem levels_le_widths_add_surplus (t : Text) (n : ℕ) (h : Reports t (.deepNesting n)) :
    (∃ k ≤ t.lines.length, (nestingAfter (t.lines.map Line.indentWidth) k).depth = n) ∧
    ∀ k ≤ t.lines.length, (nestingAfter (t.lines.map Line.indentWidth) k).depth = n →
      n ≤ (indentedWidths (t.lines.map Line.indentWidth)).card +
          surplus (t.lines.map Line.indentWidth) k ∧
        ((∀ i < k, (blocksAfter (t.lines.map Line.indentWidth) i).closedBy
            (widthAt (t.lines.map Line.indentWidth) (i + 1)) ≤ 1) →
          n ≤ (indentedWidths (t.lines.map Line.indentWidth)).card) := by
  refine ⟨?_, fun k hk hn => ?_⟩
  · obtain ⟨k, hk, hdeepest⟩ := exists_depth_eq_deepestOf (t.lines.map Line.indentWidth)
    rw [List.length_map] at hk
    exact ⟨k, hk, hdeepest.symm.trans (reports_deepNesting_iff.mp h).2⟩
  · rw [← List.length_map Line.indentWidth] at hk
    have hblocks := length_opened_le hk
    have hle := depth_le_add_surplus hk
    refine ⟨by omega, fun hone => ?_⟩
    rw [surplus_eq_zero hone] at hle
    omega

/-- One block is closed on the way to five. -/
theorem levels_le_widths_stairs :
    Reports "a\n b\n  c\n   d\n    e\n   f\n    g\n     h\n".toList (.deepNesting 5) ∧
      5 ≤ (indentedWidths ((Text.lines "a\n b\n  c\n   d\n    e\n   f\n    g\n     h\n".toList).map
        Line.indentWidth)).card := by
  have hreports : Reports "a\n b\n  c\n   d\n    e\n   f\n    g\n     h\n".toList (.deepNesting 5) :=
    reports_deepNesting_iff.mpr ⟨le_rfl, by decide⟩
  have hlevels := (levels_le_widths_add_surplus _ 5 hreports).2 8 (by decide) (by decide)
  exact ⟨hreports, hlevels.2 (by decide)⟩

/-- Four functions, each of them two blocks deep. -/
def fourFunctions : Text :=
  (List.replicate 4 "def f():\n    if x:\n        y()\n".toList).flatten

/-- Every function but the first adds a level, though the lines have two widths. -/
theorem deepNesting_fourFunctions :
    Reports fourFunctions (.deepNesting 5) ∧
      (indentedWidths (fourFunctions.lines.map Line.indentWidth)).card < 5 :=
  ⟨reports_deepNesting_iff.mpr ⟨le_rfl, by decide +kernel⟩, by decide +kernel⟩

end CodeSmell
