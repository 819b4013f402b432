import CodeSmell.Proofs.Scan.Checks
import Mathlib.Order.Bounds.Basic

/-!
# Assigned names and their lines

A scan keeps the number of the first line that assigns to a name, and a check looks that line up much
later, when all lines have been read and other checks have run.

* `Line.Assigns`, `assignmentNumbers lines v` : the lines that assign to `v`, and their numbers;
* `FirstAssignments lines assigned` : the assigned names, each with the least of its numbers and in the
  order of these; `firstAssignments_scanLines`;
* `scanAfter t k`, `scanBefore t c` : the scan of `t` after `k` lines, and when its analysis comes to the
  check `c`; `eq_foldl_check` : what the checks do not change;
* `analyze_never_fails` : no check of an analysis fails, and the line that is looked up for a name assigns
  to it.
-/

namespace CodeSmell

/-! ## First assignments -/

def Line.Assigns (line v : Text) : Prop :=
  IsVariableName v ∧ AssignsTo line v

def assignmentNumbers (lines : List Text) (v : Text) : Set ℤ :=
  {n | ∃ i line, n = ((i + 1 : ℕ) : ℤ) ∧ lines[i]? = some line ∧ Line.Assigns line v}

/-- The names that the lines assign to, each once, with the least number of such a line, and in the order of
these numbers. -/
structure FirstAssignments (lines : List Text) (assigned : List (Text × ℤ)) : Prop where
  names : ∀ v, v ∈ assigned.map (·.1) ↔ ∃ line ∈ lines, Line.Assigns line v
  nodup : (assigned.map (·.1)).Nodup
  least : ∀ a ∈ assigned, IsLeast (assignmentNumbers lines a.1) a.2
  inOrder : assigned.Pairwise fun a b => a.2 < b.2

theorem isLeast_assignmentNumbers {lines : List Text} {v : Text} {i : ℕ}
    (h : firstAssignment? lines v = some i) :
    IsLeast (assignmentNumbers lines v) ((i + 1 : ℕ) : ℤ) := by
  obtain ⟨first, hfirst, hassigned⟩ := assignedName?_of_firstAssignment? h
  refine ⟨⟨i, first, rfl, hfirst, Line.assignedName?_eq_some_iff.mp hassigned⟩, ?_⟩
  rintro n ⟨j, line, rfl, hline, hassigns⟩
  obtain ⟨hi, hassigned, hbefore⟩ := List.findIdx?_eq_some_iff_getElem.mp h
  obtain ⟨hj, rfl⟩ := List.getElem?_eq_some_iff.mp hline
  have hle : i ≤ j := by
    by_contra hlt
    refine hbefore j (by omega) ?_
    rw [decide_eq_true_eq]
    exact Line.assignedName?_eq_some_iff.mpr hassigns
  omega

theorem firstAssignments_scanLines (lines : List Text) :
    FirstAssignments lines (scanLines lines).state.assigned := by
  have hfirst := recordsFirst_scanLines lines
  have horder := pairwise_assigned_scanLines lines
  have hleast : ∀ a ∈ (scanLines lines).state.assigned, IsLeast (assignmentNumbers lines a.1) a.2 := by
    rintro ⟨v, n⟩ hmem
    obtain ⟨i, hi, rfl⟩ := (hfirst v n).mp hmem
    exact isLeast_assignmentNumbers hi
  refine ⟨fun v => ?_, ?_, hleast, horder⟩
  · rw [List.mem_map]
    constructor
    · rintro ⟨a, ha, rfl⟩
      obtain ⟨i, line, -, hline, hassigns⟩ := (hleast a ha).1
      exact ⟨line, List.mem_of_getElem? hline, hassigns⟩
    · rintro ⟨line, hline, hassigns⟩
      obtain ⟨i, hi⟩ := exists_firstAssignment? hline (Line.assignedName?_eq_some_iff.mpr hassigns)
      exact ⟨(v, _), (hfirst v _).mpr ⟨i, hi, rfl⟩, rfl⟩
  · -- a name that came twice would have two least numbers
    refine List.pairwise_map.mpr (horder.imp_of_mem fun {a b} ha hb hlt heq => ?_)
    have hb' := hleast b hb
    rw [← heq] at hb'
    exact hlt.ne ((hleast a ha).unique hb')

/-! ## The state that a check sees -/

def scanAfter (t : Text) (k : ℕ) : Scan :=
  ((t.lines.zipIdx 1).take k).foldl Scan.read {}

theorem take_zipIdx (lines : List Text) (n k : ℕ) : (lines.zipIdx n).take k = (lines.take k).zipIdx n := by
  induction lines generalizing n k with
  | nil => simp
  | cons line lines ih =>
    cases k with
    | zero => rfl
    | succ k => simp [ih]

theorem scanAfter_eq (t : Text) (k : ℕ) : scanAfter t k = scanLines (t.lines.take k) := by
  rw [scanAfter, take_zipIdx, scanLines]

/-- The scan of a text when its analysis comes to the check `c`. -/
def scanBefore (t : Text) (c : Check) : Scan :=
  (Check.all.takeWhile (· ≠ c)).foldl (Scan.check t) (scanLines t.lines)

/-- What does not depend on the open brackets stays as it is in all checks. -/
theorem eq_foldl_check {α : Type} {part : ScanState → α}
    (hpart : ∀ s stack, part { s with openBrackets := stack } = part s) (t : Text) (cs : List Check)
    (s : Scan) : part (cs.foldl (Scan.check t) s).state = part s.state := by
  induction cs generalizing s with
  | nil => rfl
  | cons c cs ih =>
    rw [List.foldl_cons, ih]
    cases c
    case unclosedBrackets => exact hpart s.state []
    all_goals rfl

/-- **An analysis never fails.** After any number of lines the assigned names are those of these lines, each
with the number of the first line that assigns to it. So the check that looks such a line up finds it, and no
check of an analysis fails. -/
theorem analyze_never_fails (t : Text) :
    (∀ k, FirstAssignments (t.lines.take k) (scanAfter t k).state.assigned) ∧
    (∀ c : Check, c.error? t (scanBefore t c).state = none) ∧
    ∀ a ∈ (scanBefore t .unusedVariables).state.assigned, ∃ i line, a.2 - 1 = ((i : ℕ) : ℤ) ∧
      t.lines[i]? = some line ∧ lineAt t.lines a.2 = .ok line ∧ Line.Assigns line a.1 := by
  have hstate : ∀ c, (scanBefore t c).state.assigned = (scanLines t.lines).state.assigned :=
    fun c => eq_foldl_check (fun _ _ => rfl) t _ _
  refine ⟨fun k => ?_, fun c => ?_, fun a ha => ?_⟩
  · rw [scanAfter_eq]
    exact firstAssignments_scanLines _
  · cases c with
    | unusedVariables =>
      rw [Check.error?, Check.errorIn?, hstate, unusedVariables_scanLines]
    | _ => rfl
  · rw [hstate] at ha
    obtain ⟨i, line, hn, hline, hassigns⟩ := ((firstAssignments_scanLines t.lines).least a ha).1
    refine ⟨i, line, by omega, hline, ?_, hassigns⟩
    rw [hn]
    exact lineAt_succ hline

/-- The second assignment to a name does not move it, so the line that is looked up is the first. -/
theorem analyze_never_fails_twice :
    (scanAfter "x = 1\nx == 2\ny = 3\nx = 4\n".toList 4).state.assigned =
        [("x".toList, 1), ("y".toList, 3)] ∧
      Check.unusedVariables.error? "x = 1\nx == 2\ny = 3\nx = 4\n".toList
        (scanBefore "x = 1\nx == 2\ny = 3\nx = 4\n".toList .unusedVariables).state = none ∧
      ∃ line, lineAt (Text.lines "x = 1\nx == 2\ny = 3\nx = 4\n".toList) 3 = .ok line ∧
        Line.Assigns line "y".toList := by
  obtain ⟨-, herror, hline⟩ := analyze_never_fails "x = 1\nx == 2\ny = 3\nx = 4\n".toList
  obtain ⟨i, line, -, -, hline, hassigns⟩ := hline ("y".toList, 3) (by decide)
  exact ⟨by decide, herror .unusedVariables, line, hline, hassigns⟩

end CodeSmell
