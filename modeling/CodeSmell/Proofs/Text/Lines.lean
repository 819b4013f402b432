import CodeSmell.Text.Basic
import Mathlib.Data.List.Basic
import Mathlib.Data.List.TakeWhile
import Mathlib.Tactic.Common

/-!
# The lines of a text and the places in them

* `splitOn_append_sep`, `append_sep_inj`, `lines_append` : the first separator cuts off the first part;
* `parts_induction` : induction over the parts of a text, from the last one on;
* `splitOn_eq_list` : cutting into parts is that of the library; `notMem_of_mem_splitOn` : no part has a separator;
* `lines_join` : the lines of two texts with a line feed between them;
* `mem_of_mem_lines` : the lines are made of characters of the text other than line feeds;
* `lineNumber t i`, `columnAt t i`, `lineHolding t i` : the number of the line that holds the position `i`
  of `t`, the column of `i` in it (both count from one), and the line itself; `*_append_left` and
  `*_append_right` compute them on the two sides of a line feed.
-/

namespace CodeSmell.Text

/-! ## Parts between separators -/

@[simp] theorem splitOn_nil (sep : Char) : splitOn sep [] = [[]] := rfl

theorem splitOn_cons_sep (sep : Char) (t : Text) : splitOn sep (sep :: t) = [] :: splitOn sep t := by
  simp [splitOn]

theorem splitOn_cons_of_ne {sep c : Char} (h : c ≠ sep) (t : Text) :
    splitOn sep (c :: t) = consFirst c (splitOn sep t) := by
  simp [splitOn, h]

/-- A text without separators is its only part. -/
theorem splitOn_of_notMem {sep : Char} {p : Text} (h : sep ∉ p) : splitOn sep p = [p] := by
  induction p with
  | nil => rfl
  | cons c p ih =>
    rw [List.mem_cons, not_or] at h
    rw [splitOn_cons_of_ne (Ne.symm h.1), ih h.2, consFirst]

/-- The first separator of a text cuts off its first part. -/
theorem splitOn_append_sep {sep : Char} {p : Text} (h : sep ∉ p) (t : Text) :
    splitOn sep (p ++ sep :: t) = p :: splitOn sep t := by
  induction p with
  | nil => exact splitOn_cons_sep sep t
  | cons c p ih =>
    rw [List.mem_cons, not_or] at h
    rw [List.cons_append, splitOn_cons_of_ne (Ne.symm h.1), ih h.2, consFirst]

/-- Two texts that agree have the same first part and the same rest behind its separator. -/
theorem append_sep_inj {sep : Char} {p q t u : Text} (hp : sep ∉ p) (hq : sep ∉ q)
    (h : p ++ sep :: t = q ++ sep :: u) : p = q ∧ t = u := by
  have hparts := congrArg (splitOn sep) h
  rw [splitOn_append_sep hp, splitOn_append_sep hq] at hparts
  obtain rfl : p = q := (List.cons.inj hparts).1
  exact ⟨rfl, (List.cons.inj (List.append_cancel_left h)).2⟩

/-- Induction over the parts of a text: a text is a last part, or a part with a separator and a text
after it. -/
theorem parts_induction (sep : Char) {P : Text → Prop} (last : ∀ p, sep ∉ p → P p)
    (step : ∀ p t, sep ∉ p → P t → P (p ++ sep :: t)) (t : Text) : P t := by
  have key : ∀ p, sep ∉ p → P (p ++ t) := by
    induction t with
    | nil =>
      intro p hp
      rw [List.append_nil]
      exact last p hp
    | cons c t ih =>
      intro p hp
      by_cases hc : c = sep
      · subst hc
        exact step p t hp (ih [] (by simp))
      · -- the character belongs to the part that is being gathered
        have := ih (p ++ [c]) (by simpa [hp] using Ne.symm hc)
        rwa [List.append_assoc, List.singleton_append] at this
  exact key [] (by simp)

theorem splitOn_eq_list (sep : Char) (t : Text) : splitOn sep t = List.splitOn sep t := by
  induction t with
  | nil => rw [splitOn_nil, List.splitOn_nil]
  | cons c t ih =>
    rw [List.splitOn, List.splitOnP_cons_eq_if_modifyHead, ← List.splitOn]
    by_cases hc : c = sep
    · subst hc
      rw [splitOn_cons_sep, ih, if_pos (beq_self_eq_true c)]
    · rw [splitOn_cons_of_ne hc, ih, if_neg (by simpa using hc)]
      cases hparts : List.splitOn sep t with
      | nil => exact absurd hparts (List.splitOn_ne_nil sep t)
      | cons p ps => rfl

theorem notMem_of_mem_splitOn {sep : Char} {t p : Text} (h : p ∈ splitOn sep t) : sep ∉ p := by
  revert h
  induction t using parts_induction sep with
  | last q hq =>
    rw [splitOn_of_notMem hq, List.mem_singleton]
    rintro rfl
    exact hq
  | step q t hq ih =>
    rw [splitOn_append_sep hq, List.mem_cons]
    rintro (rfl | h)
    · exact hq
    · exact ih h

/-! ## Lines -/

theorem dropFinal_append_or (c : Char) (t : Text) : t = dropFinal c t ∨ t = dropFinal c t ++ [c] := by
  unfold dropFinal
  split_ifs with h
  · exact Or.inr (List.dropLast_append_getLast? c h).symm
  · exact Or.inl rfl

theorem dropFinal_subset (c : Char) (t : Text) : dropFinal c t ⊆ t := by
  intro d hd
  rcases dropFinal_append_or c t with h | h <;> rw [h]
  · exact hd
  · exact List.mem_append_left _ hd

theorem lines_of_notMem {p : Text} (h : '\n' ∉ p) : lines p = [dropFinal '\r' p] := by
  rw [lines, splitOn_of_notMem h, List.map_singleton]

theorem lines_append {p : Text} (h : '\n' ∉ p) (t : Text) :
    lines (p ++ '\n' :: t) = dropFinal '\r' p :: lines t := by
  rw [lines, splitOn_append_sep h, List.map_cons, ← lines]

/-- Texts that are put together with a line feed between them have the lines of both. A carriage return at
the end of the first one is left out in either case. -/
theorem lines_join (t u : Text) : lines (t ++ '\n' :: u) = lines t ++ lines u := by
  induction t using parts_induction '\n' with
  | last p hp => rw [lines_append hp, lines_of_notMem hp, List.singleton_append]
  | step p t hp ih =>
    rw [List.append_assoc, List.cons_append, lines_append hp, ih, lines_append hp, List.cons_append]

/-- The characters of a line are characters of the text other than line feeds. -/
theorem mem_of_mem_lines {t line : Text} (h : line ∈ lines t) {c : Char} (hc : c ∈ line) :
    c ∈ t ∧ c ≠ '\n' := by
  induction t using parts_induction '\n' with
  | last p hp =>
    rw [lines_of_notMem hp, List.mem_singleton] at h
    have hcp := dropFinal_subset '\r' p (h ▸ hc)
    exact ⟨hcp, fun he => hp (he ▸ hcp)⟩
  | step p t hp ih =>
    rw [lines_append hp, List.mem_cons] at h
    rcases h with h | h
    · have hcp := dropFinal_subset '\r' p (h ▸ hc)
      exact ⟨List.mem_append_left _ hcp, fun he => hp (he ▸ hcp)⟩
    · exact ⟨List.mem_append_right _ (List.mem_cons_of_mem _ (ih h).1), (ih h).2⟩

theorem feed_notMem_of_mem_lines {t line : Text} (h : line ∈ lines t) : '\n' ∉ line :=
  fun hc => (mem_of_mem_lines h hc).2 rfl

/-! ## Places -/

def lineNumber (t : Text) (i : Nat) : Nat :=
  (t.take i).count '\n' + 1

def columnAt (t : Text) (i : Nat) : Nat :=
  ((t.take i).reverse.takeWhile (· != '\n')).length + 1

/-- The line that holds the position `i`. -/
def lineHolding (t : Text) (i : Nat) : Text :=
  (lines t).getD (lineNumber t i - 1) []

/-- What is put behind a text changes no line number in it. -/
theorem lineNumber_append {t : Text} {i : Nat} (hi : i ≤ t.length) (u : Text) :
    lineNumber (t ++ u) i = lineNumber t i := by
  unfold lineNumber
  rw [List.take_append_of_le_length hi]

section Places
variable {p : Text} (hp : '\n' ∉ p) {t : Text} {i : Nat}
include hp

theorem lineNumber_of_notMem : lineNumber p i = 1 := by
  rw [lineNumber, List.count_eq_zero.mpr fun h => hp (List.mem_of_mem_take h)]

theorem columnAt_of_notMem (hi : i ≤ p.length) : columnAt p i = i + 1 := by
  have hall : ∀ c ∈ (p.take i).reverse, (c != '\n') = true := by
    intro c hc
    rw [List.mem_reverse] at hc
    exact bne_iff_ne.mpr fun h => hp (h ▸ List.mem_of_mem_take hc)
  rw [columnAt, List.takeWhile_eq_self_iff.mpr hall, List.length_reverse, List.length_take,
    Nat.min_eq_left hi]

theorem lineHolding_of_notMem : lineHolding p i = dropFinal '\r' p := by
  rw [lineHolding, lineNumber_of_notMem hp, lines_of_notMem hp]
  rfl

theorem lineNumber_append_left (hi : i ≤ p.length) : lineNumber (p ++ '\n' :: t) i = 1 := by
  rw [lineNumber_append hi, lineNumber_of_notMem hp]

theorem columnAt_append_left (hi : i ≤ p.length) : columnAt (p ++ '\n' :: t) i = i + 1 := by
  rw [columnAt, List.take_append_of_le_length hi, ← columnAt, columnAt_of_notMem hp hi]

theorem lineHolding_append_left (hi : i ≤ p.length) :
    lineHolding (p ++ '\n' :: t) i = dropFinal '\r' p := by
  rw [lineHolding, lineNumber_append_left hp hi, lines_append hp]
  rfl

theorem lineNumber_append_right :
    lineNumber (p ++ '\n' :: t) (p.length + 1 + i) = lineNumber t i + 1 := by
  have hz : p.count '\n' = 0 := List.count_eq_zero.mpr hp
  rw [lineNumber, lineNumber, Nat.add_assoc, List.take_length_add_append, Nat.add_comm 1 i,
    List.take_succ_cons, List.count_append, List.count_cons_self, hz]
  omega

omit hp in
theorem columnAt_append_right :
    columnAt (p ++ '\n' :: t) (p.length + 1 + i) = columnAt t i := by
  have h : ((p ++ '\n' :: t).take (p.length + 1 + i)).reverse =
      (t.take i).reverse ++ '\n' :: p.reverse := by
    rw [Nat.add_assoc, List.take_length_add_append, Nat.add_comm 1 i, List.take_succ_cons]
    simp
  rw [columnAt, columnAt, h, List.takeWhile_append]
  split_ifs with hall
  · simp [hall]
  · rfl

theorem lineHolding_append_right :
    lineHolding (p ++ '\n' :: t) (p.length + 1 + i) = lineHolding t i := by
  rw [lineHolding, lineHolding, lineNumber_append_right hp, lines_append hp, lineNumber]
  rfl

end Places

end CodeSmell.Text
