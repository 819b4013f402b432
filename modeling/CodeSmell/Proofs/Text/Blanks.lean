import CodeSmell.Text.Basic
import Mathlib.Data.List.TakeWhile
import Mathlib.Tactic.Common

/-!
# Texts without the blanks at their ends

* `stops_dropWhile` : a run that is left out ends where the condition fails;
* `takeWhile_exact`, `dropWhile_exact` : a run, and what is behind it, when it is known where it ends;
* `all_strip` : a condition that all blanks meet holds of a stripped text when it holds of the text;
* `isEmpty_strip` : nothing is left of a text exactly when it is made of blanks.
-/

namespace CodeSmell.Text

/-- What is left behind a run begins with a character that is not in it. -/
theorem stops_dropWhile {p : Char → Bool} {t : Text} {c : Char} (h : c ∈ (t.dropWhile p).head?) :
    p c = false := by
  have hnot := List.head?_dropWhile_not p t
  rwa [Option.mem_def.mp h] at hnot

section
variable {p : Char → Bool} {t rest : Text} (ht : ∀ c ∈ t, p c = true) (hrest : ∀ c ∈ rest.head?, p c = false)
include ht hrest

theorem takeWhile_exact : (t ++ rest).takeWhile p = t := by
  rw [List.takeWhile_append_of_pos ht]
  cases rest with
  | nil => simp
  | cons c rest => rw [List.takeWhile_cons_of_neg (by simp [hrest c rfl]), List.append_nil]

theorem dropWhile_exact : (t ++ rest).dropWhile p = rest := by
  rw [List.dropWhile_append_of_pos ht]
  cases rest with
  | nil => rfl
  | cons c rest => rw [List.dropWhile_cons_of_neg (by simp [hrest c rfl])]

end

theorem all_dropWhile {p q : Char → Bool} (h : ∀ c, p c = true → q c = true) (t : Text) :
    (t.dropWhile p).all q = t.all q := by
  induction t with
  | nil => rfl
  | cons c t ih =>
    rw [List.dropWhile_cons, List.all_cons]
    split_ifs with hc
    · rw [ih, h c hc, Bool.true_and]
    · rw [List.all_cons]

theorem all_strip {q : Char → Bool} (h : ∀ c, isSpace c = true → q c = true) (t : Text) :
    (strip t).all q = t.all q := by
  rw [strip, List.all_reverse, all_dropWhile h, List.all_reverse, all_dropWhile h]

theorem isEmpty_dropWhile (p : Char → Bool) (t : Text) : (t.dropWhile p).isEmpty = t.all p := by
  rw [Bool.eq_iff_iff, List.isEmpty_iff, List.dropWhile_eq_nil_iff, List.all_eq_true]

theorem isEmpty_strip (t : Text) : (strip t).isEmpty = t.all isSpace := by
  rw [strip, List.isEmpty_reverse, isEmpty_dropWhile, List.all_reverse, all_dropWhile fun _ h => h]

end CodeSmell.Text
