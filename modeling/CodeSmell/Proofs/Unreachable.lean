import CodeSmell.Proofs.Line.Statement
import CodeSmell.Proofs.Scan.Checks

/-!
# Code after a return

The search for code after a return keeps one bit and passes over blank lines and comments. What it finds can be
told without the bit: the lines of code whose last line of code before them is a return.

* `IsSignificant line`, `IsReturn line` : the line holds code, and it is a `return` statement;
* `Precedes lines j i` : line `j` is the last significant line before line `i`;
* `AfterReturn lines i`, `FollowsReturn lines i` : that line is a return, and line `i` is code other than a return;
* `afterReturn_concat_of_significant`, `afterReturn_concat_of_not` : one line more;
* `Searched lines s` : what the search `s` has come to after the lines; `Searched.step`, `searched_foldl`;
* `unreachable_findings` : code after a return is found once for each line that follows a return.
-/

namespace CodeSmell

open Text

namespace Line

/-- Something is left of the line when the blanks at its ends are taken off, and that begins no comment. -/
def IsSignificant (line : Text) : Prop :=
  strip line ≠ [] ∧ (strip line).head? ≠ some '#'

/-- Without the blanks at its ends, the line is `return` and then nothing, or a character that is in no word. -/
def IsReturn (line : Text) : Prop :=
  ∃ rest, strip line = "return".toList ++ rest ∧ ∀ c ∈ rest.head?, isWord c = false

theorem isSignificant_iff {line : Text} : isSignificant (strip line) = true ↔ IsSignificant line := by
  unfold IsSignificant
  cases strip line with
  | nil => simp [isSignificant]
  | cons c rest => simp [isSignificant]

theorem isReturn_iff {line : Text} : isReturn (strip line) = true ↔ IsReturn line := by
  have hword : ∀ c ∈ "return".toList, isWord c = true := List.all_eq_true.mp (by decide)
  unfold isReturn IsReturn
  rw [decide_eq_true_eq]
  constructor
  · intro h
    refine ⟨(strip line).dropWhile isWord, ?_, fun c hc => ?_⟩
    · rw [← h, firstWord, List.takeWhile_append_dropWhile]
    · exact stops_dropWhile hc
  · rintro ⟨rest, hline, hrest⟩
    rw [hline, firstWord, takeWhile_run hword (startsInWord_eq_false_iff.mpr hrest)]

instance (line : Text) : Decidable (IsSignificant line) :=
  decidable_of_iff _ isSignificant_iff

instance (line : Text) : Decidable (IsReturn line) :=
  decidable_of_iff _ isReturn_iff

/-- A return is code. -/
theorem IsReturn.isSignificant {line : Text} (h : IsReturn line) : IsSignificant line := by
  obtain ⟨rest, hline, -⟩ := h
  unfold IsSignificant
  rw [hline]
  exact ⟨List.cons_ne_nil _ _, show some 'r' ≠ some '#' by decide⟩

end Line

open Line

/-! ## Lines that follow a return -/

/-- There is a line `i`, and it is as `p` says. Lines count from zero here. -/
def HoldsAt (p : Text → Prop) (lines : List Text) (i : ℕ) : Prop :=
  ∃ line ∈ lines[i]?, p line

/-- Line `j` is the last significant line before line `i`. -/
def Precedes (lines : List Text) (j i : ℕ) : Prop :=
  HoldsAt IsSignificant lines j ∧ ∀ k < i, j < k → ¬ HoldsAt IsSignificant lines k

/-- There is a last significant line before line `i`, and it is a return. -/
def AfterReturn (lines : List Text) (i : ℕ) : Prop :=
  ∃ j < i, Precedes lines j i ∧ HoldsAt IsReturn lines j

/-- Line `i` is code other than a return, and the last significant line before it is a return. -/
def FollowsReturn (lines : List Text) (i : ℕ) : Prop :=
  HoldsAt IsSignificant lines i ∧ ¬ HoldsAt IsReturn lines i ∧ AfterReturn lines i

instance (p : Text → Prop) [DecidablePred p] (lines : List Text) (i : ℕ) : Decidable (HoldsAt p lines i) :=
  inferInstanceAs (Decidable (∃ line ∈ lines[i]?, p line))

instance (lines : List Text) (j i : ℕ) : Decidable (Precedes lines j i) :=
  inferInstanceAs (Decidable (_ ∧ ∀ k < i, _))

instance (lines : List Text) (i : ℕ) : Decidable (AfterReturn lines i) :=
  inferInstanceAs (Decidable (∃ j < i, _))

instance (lines : List Text) (i : ℕ) : Decidable (FollowsReturn lines i) :=
  inferInstanceAs (Decidable (_ ∧ _ ∧ _))

/-! ## One line more -/

section Concat
variable {lines : List Text} {line : Text} {i j : ℕ}

theorem holdsAt_concat_of_lt {p : Text → Prop} (hi : i < lines.length) :
    HoldsAt p (lines ++ [line]) i ↔ HoldsAt p lines i := by
  unfold HoldsAt
  rw [List.getElem?_append_left hi]

theorem holdsAt_concat_length {p : Text → Prop} : HoldsAt p (lines ++ [line]) lines.length ↔ p line := by
  simp [HoldsAt]

theorem precedes_concat (hj : j < i) (hi : i ≤ lines.length) :
    Precedes (lines ++ [line]) j i ↔ Precedes lines j i := by
  unfold Precedes
  rw [holdsAt_concat_of_lt (hj.trans_le hi)]
  refine and_congr_right fun _ => forall₂_congr fun k hk => ?_
  rw [holdsAt_concat_of_lt (hk.trans_le hi)]

theorem afterReturn_concat (hi : i ≤ lines.length) :
    AfterReturn (lines ++ [line]) i ↔ AfterReturn lines i := by
  unfold AfterReturn
  refine exists_congr fun j => and_congr_right fun hj => ?_
  rw [precedes_concat hj hi, holdsAt_concat_of_lt (hj.trans_le hi)]

theorem followsReturn_concat (hi : i < lines.length) :
    FollowsReturn (lines ++ [line]) i ↔ FollowsReturn lines i := by
  unfold FollowsReturn
  rw [holdsAt_concat_of_lt hi, holdsAt_concat_of_lt hi, afterReturn_concat hi.le]

theorem followsReturn_concat_length :
    FollowsReturn (lines ++ [line]) lines.length ↔
      IsSignificant line ∧ ¬ IsReturn line ∧ AfterReturn lines lines.length := by
  unfold FollowsReturn
  rw [holdsAt_concat_length, holdsAt_concat_length, afterReturn_concat le_rfl]

/-- Behind a significant line, that line is the last one. -/
theorem afterReturn_concat_of_significant (hline : IsSignificant line) :
    AfterReturn (lines ++ [line]) (lines.length + 1) ↔ IsReturn line := by
  constructor
  · rintro ⟨j, hj, ⟨-, hlast⟩, hreturn⟩
    obtain rfl : j = lines.length := by
      by_contra hne
      exact hlast lines.length (by omega) (by omega) (holdsAt_concat_length.mpr hline)
    exact holdsAt_concat_length.mp hreturn
  · intro hreturn
    refine ⟨lines.length, by omega, ⟨holdsAt_concat_length.mpr hline, ?_⟩, holdsAt_concat_length.mpr hreturn⟩
    intro k hk hlt
    omega

/-- Behind any other line, the last significant line is the one before. -/
theorem afterReturn_concat_of_not (hline : ¬ IsSignificant line) :
    AfterReturn (lines ++ [line]) (lines.length + 1) ↔ AfterReturn lines lines.length := by
  have hsame : AfterReturn (lines ++ [line]) lines.length ↔ AfterReturn lines lines.length :=
    afterReturn_concat le_rfl
  rw [← hsame]
  constructor
  · rintro ⟨j, hj, ⟨hsig, hlast⟩, hreturn⟩
    have hne : j ≠ lines.length := by
      rintro rfl
      exact hline (holdsAt_concat_length.mp hsig)
    exact ⟨j, by omega, ⟨hsig, fun k hk => hlast k (by omega)⟩, hreturn⟩
  · rintro ⟨j, hj, ⟨hsig, hlast⟩, hreturn⟩
    refine ⟨j, by omega, ⟨hsig, fun k hk hlt => ?_⟩, hreturn⟩
    by_cases hlen : k = lines.length
    · rw [hlen, holdsAt_concat_length]
      exact hline
    · exact hlast k (by omega) hlt

end Concat

/-- The lines that follow a return, with their numbers, which count from one. -/
def linesAfterReturn (lines : List Text) : List (Text × ℕ) :=
  (lines.zipIdx.filter fun l => FollowsReturn lines l.2).map fun l => (l.1, l.2 + 1)

theorem linesAfterReturn_concat (lines : List Text) (line : Text) :
    linesAfterReturn (lines ++ [line]) = linesAfterReturn lines ++
      if FollowsReturn (lines ++ [line]) lines.length then [(line, lines.length + 1)] else [] := by
  have hbefore : lines.zipIdx.filter (fun l => FollowsReturn (lines ++ [line]) l.2) =
      lines.zipIdx.filter fun l => FollowsReturn lines l.2 := by
    refine List.filter_congr fun l hl => decide_eq_decide.mpr (followsReturn_concat ?_)
    simpa using List.snd_lt_of_mem_zipIdx hl
  rw [linesAfterReturn, List.zipIdx_append, List.filter_append, List.map_append, hbefore, ← linesAfterReturn,
    List.zipIdx_singleton, Nat.zero_add]
  split_ifs with h <;> simp [h]

/-! ## The search -/

/-- The search `s` after the lines: its bit tells whether a return was the last significant line, it has found
the lines that follow a return, and each return accounts for one of them or for the bit. -/
structure Searched (lines : List Text) (s : Bool × List (Text × ℕ)) : Prop where
  armed : s.1 = true ↔ AfterReturn lines lines.length
  found : s.2.reverse = linesAfterReturn lines
  fewer : s.2.length + s.1.toNat ≤ lines.countP (IsReturn ·)

namespace Searched
variable {lines : List Text} {line : Text} {s : Bool × List (Text × ℕ)} (h : Searched lines s)
include h

/-- A return arms the search. -/
theorem returns (hline : IsReturn line) : Searched (lines ++ [line]) (true, s.2) := by
  refine ⟨?_, ?_, ?_⟩
  · rw [List.length_append, List.length_singleton, afterReturn_concat_of_significant hline.isSignificant]
    exact iff_of_true rfl hline
  · rw [linesAfterReturn_concat, if_neg fun hf => (followsReturn_concat_length.mp hf).2.1 hline, List.append_nil]
    exact h.found
  · have := h.fewer
    rw [List.countP_append, List.countP_singleton, if_pos (by simpa using hline), Bool.toNat_true]
    dsimp only
    omega

/-- Code in an armed search is found, and disarms it. -/
theorem finds (harmed : s.1 = true) (hsig : IsSignificant line) (hline : ¬ IsReturn line) :
    Searched (lines ++ [line]) (false, (line, lines.length + 1) :: s.2) := by
  refine ⟨?_, ?_, ?_⟩
  · rw [List.length_append, List.length_singleton, afterReturn_concat_of_significant hsig]
    exact iff_of_false Bool.false_ne_true hline
  · rw [linesAfterReturn_concat, if_pos (followsReturn_concat_length.mpr ⟨hsig, hline, h.armed.mp harmed⟩),
      List.reverse_cons, h.found]
  · have := h.fewer
    rw [harmed, Bool.toNat_true] at this
    rw [List.countP_append, List.length_cons, Bool.toNat_false]
    omega

/-- All other lines are passed over: those that are no code, and code in a search that is not armed. -/
theorem passes (hline : ¬ IsReturn line) (hpass : ¬ (s.1 = true ∧ IsSignificant line)) :
    Searched (lines ++ [line]) s := by
  refine ⟨?_, ?_, ?_⟩
  · rw [List.length_append, List.length_singleton]
    by_cases hsig : IsSignificant line
    · rw [afterReturn_concat_of_significant hsig]
      exact iff_of_false (fun harmed => hpass ⟨harmed, hsig⟩) hline
    · rw [afterReturn_concat_of_not hsig]
      exact h.armed
  · rw [linesAfterReturn_concat, if_neg, List.append_nil]
    · exact h.found
    · intro hf
      obtain ⟨hsig, -, hafter⟩ := followsReturn_concat_length.mp hf
      exact hpass ⟨h.armed.mpr hafter, hsig⟩
  · have := h.fewer
    rw [List.countP_append]
    omega

theorem step (line : Text) : Searched (lines ++ [line]) (unreachableStep s (line, lines.length + 1)) := by
  unfold unreachableStep
  dsimp only
  split_ifs with hreturn hfind
  · exact h.returns (isReturn_iff.mp hreturn)
  · rw [Bool.and_eq_true, isSignificant_iff] at hfind
    exact h.finds hfind.1 hfind.2 (mt isReturn_iff.mpr hreturn)
  · rw [Bool.and_eq_true, isSignificant_iff] at hfind
    exact h.passes (mt isReturn_iff.mpr hreturn) hfind

end Searched

theorem searched_foldl (lines : List Text) :
    Searched lines ((lines.zipIdx 1).foldl unreachableStep (false, [])) := by
  induction lines using List.reverseRecOn with
  | nil =>
    refine ⟨?_, rfl, Nat.le_refl 0⟩
    exact iff_of_false Bool.false_ne_true fun ⟨j, hj, _⟩ => Nat.not_lt_zero j hj
  | append_singleton lines line ih =>
    rw [List.zipIdx_append, List.foldl_append, List.zipIdx_singleton, List.foldl_cons, List.foldl_nil,
      Nat.add_comm 1]
    exact ih.step line

/-- **Code after a return is what follows one.** The findings are one for each line of code that is no return and
whose last line of code before it is a return, in the order of the lines, with its number and text. So there
are no more of them than there are returns. -/
theorem unreachable_findings (t : Text) :
    (analyze t).filter (·.rule = Rule.unreachableCode.name) =
      ((t.lines.zipIdx.filter fun l => FollowsReturn t.lines l.2).map fun l =>
        (Smell.unreachable (l.2 + 1 : ℕ)).onLine (l.2 + 1 : ℕ) l.1) ∧
    ((analyze t).filter (·.rule = Rule.unreachableCode.name)).length ≤ t.lines.countP (IsReturn ·) := by
  have hsearched := searched_foldl t.lines
  have hfound : (analyze t).filter (·.rule = Rule.unreachableCode.name) =
      (unreachableLines t.lines).map fun l => (Smell.unreachable l.2).onLine l.2 l.1 :=
    filter_isOf_rule (c := .unreachableCode) (by decide) t
  constructor
  · rw [hfound, unreachableLines, hsearched.found, linesAfterReturn, List.map_map]
    rfl
  · have := hsearched.fewer
    rw [hfound, List.length_map, unreachableLines, List.length_reverse]
    omega

-- a comment, a blank line and a second return stand between a return and what follows it
example : (linesAfterReturn (lines "return x # y\n\n# z\n return\n  w\nreturned\n".toList)).map (·.2) = [5] := by
  decide

end CodeSmell
