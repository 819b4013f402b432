import CodeSmell.Proofs.Brackets.Pairing
import CodeSmell.Proofs.Scan.Assignments
import Mathlib.Data.Prod.Lex

/-!
# The stack of a scan in the middle of a text

A closer takes the last open bracket off the stack or leaves the stack alone, so what is on it at any time has kept
the order of the text.

* `count_brackets` : the openers read and the stray closers are as many as the open brackets and the closers read;
* `OpenBracket.place` : where a bracket stands, compared by the line first and then by the column;
* `pairwise_place_spots` : the spots of numbered lines come in the order of their places;
* `StandsIn lines b` : the open bracket `b` stands in the lines at its line and column;
* `openBrackets_in_order` : what the stack of an analysis holds after any number of lines.
-/

namespace CodeSmell

/-- Where an open bracket stands: its line and, within the line, its column. -/
def OpenBracket.place (b : OpenBracket) : ℤ ×ₗ ℕ :=
  toLex (b.line, b.column)

namespace Bracket

open Text

variable {α : Type}

/-! ## Words -/

theorem isCloser_of_opener? {c o : Char} (h : opener? c = some o) : isCloser c = true := by
  rw [isCloser, h]
  rfl

theorem isCloser_of_isOpener {c : Char} (h : isOpener c = true) : isCloser c = false := by
  rw [isCloser, opener?_of_isOpener h]
  rfl

/-- In numbers: each opener is on the stack or has been closed, and each closer is stray or has closed one. -/
theorem count_brackets (w : List (Char × α)) :
    w.countP (isOpener ·.1) + (account w).stray.length = (account w).opened.length + w.countP (isCloser ·.1) := by
  induction w using List.reverseRecOn with
  | nil => rfl
  | append_singleton w p ih =>
    have hstep := Account.step_read (account w) p
    rw [account_concat, List.countP_append, List.countP_append, List.countP_singleton, List.countP_singleton]
    generalize (account w).read p = b at hstep
    cases hstep with
    | other hp =>
      obtain ⟨hopener, hcloser⟩ := Bool.or_eq_false_iff.mp hp
      rw [hopener, show isCloser p.1 = false from hcloser]
      exact ih
    | opens hp =>
      rw [hp, isCloser_of_isOpener hp]
      simp only [if_true, Bool.false_eq_true, if_false, List.length_cons]
      omega
    | closes hp ha =>
      rw [ha, List.length_cons] at ih
      rw [isOpener_eq_false hp, isCloser_of_opener? hp]
      simp only [if_true, Bool.false_eq_true, if_false]
      omega
    | strays hp _ =>
      rw [isOpener_eq_false hp, isCloser_of_opener? hp]
      simp only [if_true, Bool.false_eq_true, if_false, List.length_cons]
      omega

/-! ## Lines -/

/-- The spots of lines that are numbered come in the order of their places. -/
theorem pairwise_place_spots (n : ℕ) (lines : List Text) :
    (spots n lines).Pairwise fun p q => (openBracket p).place < (openBracket q).place := by
  unfold spots
  rw [List.pairwise_flatMap]
  refine ⟨fun l _ => ?_, ?_⟩
  · -- within a line the columns go up
    refine List.pairwise_map.mpr ((pairwise_snd_zipIdx l.1 1).imp fun {p q} hlt => ?_)
    exact Prod.Lex.toLex_lt_toLex.mpr (Or.inr ⟨rfl, hlt⟩)
  · refine (pairwise_snd_zipIdx lines n).imp fun {l m} hlt p hp q hq => ?_
    obtain ⟨c, -, rfl⟩ := List.mem_map.mp hp
    obtain ⟨d, -, rfl⟩ := List.mem_map.mp hq
    exact Prod.Lex.toLex_lt_toLex.mpr (Or.inl (Int.ofNat_lt.mpr hlt))

theorem map_fst_spots (n : ℕ) (lines : List Text) : (spots n lines).map Prod.fst = lines.flatten := by
  induction lines generalizing n with
  | nil => rfl
  | cons line lines ih =>
    have hline : (lineSpots n line).map Prod.fst = line := by
      unfold lineSpots
      rw [List.map_map]
      exact List.zipIdx_map_fst 1 line
    rw [spots_cons, List.map_append, hline, ih, List.flatten_cons]

theorem countP_spots (kind : Char → Bool) (n : ℕ) (lines : List Text) :
    (spots n lines).countP (kind ·.1) = lines.flatten.countP kind := by
  rw [← map_fst_spots n lines, List.countP_map]
  rfl

/-- From the bottom up, the brackets on the stack of a scan stand further and further on in the text. -/
theorem pairwise_place_openBrackets (lines : List Text) :
    ((scanLines lines).state.openBrackets.reverse.map OpenBracket.place).Pairwise (· < ·) := by
  rw [(keeps_scanLines lines).opened, ← List.map_reverse, List.map_map, List.pairwise_map]
  have hsub := (reverse_opened_sublist (spots 1 lines)).trans List.filter_sublist
  exact (pairwise_place_spots 1 lines).sublist hsub

/-- The open bracket stands in the lines where it says, and is an opener. -/
def StandsIn (lines : List Text) (b : OpenBracket) : Prop :=
  ∃ (n : ℕ) (text : Text), b.line = n ∧ 1 ≤ n ∧ n ≤ lines.length ∧ lines[n - 1]? = some text ∧
    1 ≤ b.column ∧ b.column ≤ text.length ∧ text[b.column - 1]? = some b.bracket ∧ isOpener b.bracket = true

theorem standsIn_of_mem_openBrackets {lines : List Text} {b : OpenBracket}
    (h : b ∈ (scanLines lines).state.openBrackets) : StandsIn lines b := by
  obtain ⟨i, j, text, hline, hchar, hnumber, hcolumn⟩ := mem_openBrackets_scanLines h
  have hj := lt_of_getElem?_eq_some (u := text) hchar
  have hopener : isOpener b.bracket = true := by
    rw [(keeps_scanLines lines).opened] at h
    obtain ⟨p, hp, rfl⟩ := List.mem_map.mp h
    exact (mem_of_mem_opened hp).2
  refine ⟨i + 1, text, hnumber, by omega, ?_, ?_, by omega, by omega, ?_, hopener⟩
  · exact (List.getElem?_eq_some_iff.mp hline).1
  · simpa using hline
  · rw [hcolumn]
    simpa using hchar

theorem count_openBrackets (lines : List Text) :
    lines.flatten.countP isOpener +
        ((scanLines lines).findings.toList.filter (Finding.isOf .unmatchedBracket)).length =
      (scanLines lines).state.openBrackets.length + lines.flatten.countP isCloser := by
  have hcount := count_brackets (spots 1 lines)
  rw [countP_spots isOpener, countP_spots isCloser] at hcount
  rw [(keeps_scanLines lines).stray, (keeps_scanLines lines).opened, List.length_reverse, List.length_map,
    List.length_map]
  exact hcount

/-- **The stack of open brackets after any number of lines.** From the bottom up, the brackets on it come later and
later in the text; each stands at its line and column, on one of the lines that have been read; and none is lost: the
openers read and the stray closers reported are as many as the brackets on the stack and the closers read. -/
theorem openBrackets_in_order (t : Text) (k : ℕ) :
    ((scanAfter t k).state.openBrackets.reverse.map OpenBracket.place).Pairwise (· < ·) ∧
    (∀ b ∈ (scanAfter t k).state.openBrackets, StandsIn (t.lines.take k) b) ∧
    (t.lines.take k).flatten.countP isOpener +
        ((scanAfter t k).findings.toList.filter (Finding.isOf .unmatchedBracket)).length =
      (scanAfter t k).state.openBrackets.length + (t.lines.take k).flatten.countP isCloser := by
  rw [scanAfter_eq]
  exact ⟨pairwise_place_openBrackets _, fun b hb => standsIn_of_mem_openBrackets hb, count_openBrackets _⟩

/-- A closer of the wrong kind leaves both brackets before it on the stack. -/
theorem openBrackets_in_order_stray :
    (scanAfter "f(a,\n  [b)\n]".toList 2).state.openBrackets = [⟨'[', 2, 3⟩, ⟨'(', 1, 2⟩] ∧
      OpenBracket.place ⟨'(', 1, 2⟩ < OpenBracket.place ⟨'[', 2, 3⟩ ∧
      StandsIn ["f(a,".toList, "  [b)".toList] ⟨'[', 2, 3⟩ := by
  have hstack : (scanAfter "f(a,\n  [b)\n]".toList 2).state.openBrackets = [⟨'[', 2, 3⟩, ⟨'(', 1, 2⟩] := by
    decide +kernel
  obtain ⟨horder, hstands, -⟩ := openBrackets_in_order "f(a,\n  [b)\n]".toList 2
  rw [hstack] at horder hstands
  have hlines : (Text.lines "f(a,\n  [b)\n]".toList).take 2 = ["f(a,".toList, "  [b)".toList] := by decide
  rw [hlines] at hstands
  exact ⟨hstack, by simpa using horder, hstands _ List.mem_cons_self⟩

end Bracket

end CodeSmell
