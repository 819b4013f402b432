import CodeSmell.Proofs.Brackets.Scan
import CodeSmell.Proofs.Scan.Session

/-!
# Open brackets below

A closer is compared with the innermost open bracket only. Lines without stray closers therefore close brackets of
their own and no others, and what was open before them stays open below what they open.

* `Account.above a base` : the account `a` with the brackets `base` open below its own;
* `Account.read_above`, `foldl_read_above` : a character, or a word, that adds no stray closer does the same over any
  brackets;
* `Session.readBrackets` : a session that matches the brackets of lines with any numbers;
* `Session.withAccount`, `readBrackets_withAccount` : such a session keeps the account of the characters of its lines;
* `readBrackets_frame` : lines that have no stray closer by themselves have none over any stack, and leave it as it is
  below their own open brackets.
-/

namespace CodeSmell

namespace Bracket

variable {α : Type}

/-! ## Words -/

namespace Account

/-- The account with the brackets `base` open below its own. -/
def above (a : Account α) (base : List (Char × α)) : Account α :=
  { a with opened := a.opened ++ base }

theorem stray_suffix_read (a : Account α) (p : Char × α) : a.stray <:+ (a.read p).stray := by
  have hstep := step_read a p
  generalize a.read p = b at hstep
  cases hstep with
  | other _ => exact List.suffix_rfl
  | opens _ => exact List.suffix_rfl
  | closes _ _ => exact List.suffix_rfl
  | strays _ _ => exact List.suffix_cons _ _

/-- A character that is not a stray closer does the same over any brackets: if it closes a bracket, there is one above
`base`. -/
theorem read_above {a : Account α} {p : Char × α} (h : (a.read p).stray = a.stray) (base : List (Char × α)) :
    (a.above base).read p = (a.read p).above base := by
  have hstep := step_read a p
  generalize a.read p = b at h hstep
  cases hstep with
  | other hp => exact read_other hp
  | opens hp => exact read_opens hp
  | closes hp ha =>
    have habove : (a.above base).opened = _ :: (_ ++ base) := congrArg (· ++ base) ha
    exact read_closes hp habove
  | strays _ _ => exact absurd h (List.cons_ne_self _ _)

end Account

theorem stray_suffix_foldl (w : List (Char × α)) (a : Account α) : a.stray <:+ (w.foldl Account.read a).stray := by
  induction w generalizing a with
  | nil => exact List.suffix_rfl
  | cons p w ih => exact (a.stray_suffix_read p).trans (ih (a.read p))

/-- What a character does over any brackets, a word does. -/
theorem foldl_read_above {w : List (Char × α)} {a : Account α} (h : (w.foldl Account.read a).stray = a.stray)
    (base : List (Char × α)) : w.foldl Account.read (a.above base) = (w.foldl Account.read a).above base := by
  induction w generalizing a with
  | nil => rfl
  | cons p w ih =>
    rw [List.foldl_cons] at h
    -- stray closers are never taken back, so the first character has added none
    have hlater : (a.read p).stray <:+ a.stray := h ▸ stray_suffix_foldl w (a.read p)
    have hfirst : (a.read p).stray = a.stray :=
      hlater.eq_of_length_le (a.stray_suffix_read p).length_le
    rw [List.foldl_cons, List.foldl_cons, Account.read_above hfirst, ih (h.trans hfirst.symm)]

/-! ## Numbered lines -/

/-- The characters of lines that carry their numbers, with their spots. -/
def numberedSpots (lines : List (ℤ × Text)) : List (Char × Spot) :=
  lines.flatMap fun l => lineSpots l.1 l.2

/-- Any stack is that of some spots. -/
theorem exists_map_openBracket (stack : List OpenBracket) : ∃ w : List (Char × Spot), w.map openBracket = stack := by
  refine List.map_surjective_iff.mpr (fun b => ?_) stack
  exact ⟨(b.bracket, ⟨b.line, b.column, []⟩), rfl⟩

end Bracket

namespace Session

open CodeSmell.Bracket

/-- The session after the brackets of numbered lines have been matched. -/
def readBrackets (s : Session) (lines : List (ℤ × Text)) : Session :=
  s.run (lines.map fun l => .readBrackets l.1 l.2)

/-- The session with the open brackets of an account and, behind its findings, those about the stray closers. -/
def withAccount (s : Session) (a : Account Spot) : Session :=
  { s with
    state := { s.state with openBrackets := a.opened.map openBracket }
    findings := s.findings ++ (a.stray.map strayFinding).reverse }

theorem withAccount_eq_self {s : Session} {w : List (Char × Spot)} (h : w.map openBracket = s.state.openBrackets) :
    s.withAccount { opened := w } = s := by
  simp only [withAccount, h, List.map_nil, List.reverse_nil, List.append_nil]

theorem step_withAccount (s : Session) (a : Account Spot) (n : ℤ) (line : Text) :
    (s.withAccount a).step (.readBrackets n line) = s.withAccount ((lineSpots n line).foldl Account.read a) := by
  have hline := agrees_readLine n line a
  simp only [step, outcome, withAccount, hline.stack, hline.stray, strayFindings, List.reverse_append,
    List.map_reverse, List.append_assoc]

/-- What a line does to the account, all lines do. -/
theorem readBrackets_withAccount (s : Session) (lines : List (ℤ × Text)) (a : Account Spot) :
    (s.withAccount a).readBrackets lines = s.withAccount ((numberedSpots lines).foldl Account.read a) := by
  induction lines generalizing a with
  | nil => rfl
  | cons l lines ih =>
    rw [numberedSpots, List.flatMap_cons, List.foldl_append, ← numberedSpots, ← ih, ← step_withAccount]
    rfl

theorem readBrackets_eq {s : Session} {w : List (Char × Spot)} (h : w.map openBracket = s.state.openBrackets)
    (lines : List (ℤ × Text)) :
    s.readBrackets lines = s.withAccount ((numberedSpots lines).foldl Account.read { opened := w }) := by
  rw [← readBrackets_withAccount, withAccount_eq_self h]

/-- **Open brackets below are a frame.** If lines, read from an empty stack, have no stray closer and leave the
brackets `R` open, then from any stack `S` they have no stray closer either, and leave `R` open over `S`. Stacks have
the innermost bracket first, and nothing but the stack changes. The two sessions may differ in all else. -/
theorem readBrackets_frame {s₀ s : Session} {lines : List (ℤ × Text)} {R S : List OpenBracket}
    (hempty : s₀.state.openBrackets = []) (hquiet : (s₀.readBrackets lines).findings = s₀.findings)
    (hR : (s₀.readBrackets lines).state.openBrackets = R) (hS : s.state.openBrackets = S) :
    (s.readBrackets lines).findings = s.findings ∧
      (s.readBrackets lines).state = { s.state with openBrackets := R ++ S } := by
  rw [readBrackets_eq (w := []) hempty.symm, ← account] at hquiet hR
  have hstray : (account (numberedSpots lines)).stray = [] := by
    simpa [withAccount] using hquiet
  obtain ⟨base, rfl⟩ := exists_map_openBracket S
  have habove : (numberedSpots lines).foldl Account.read { opened := base } =
      (account (numberedSpots lines)).above base := foldl_read_above hstray base
  rw [readBrackets_eq hS.symm, habove]
  constructor
  · rw [withAccount, Account.above, hstray, List.map_nil, List.reverse_nil, List.append_nil]
  · rw [withAccount, Account.above, List.map_append, ← hR]
    rfl

/-- Two lines, the second of which closes a bracket of the first, after a line with a stray closer. -/
theorem readBrackets_frame_twoLines :
    let s := (start []).readBrackets [(1, "g([)".toList)]
    let lines := [(2, "\x7b(a".toList), (3, "b), (c[0]".toList)]
    ((start []).readBrackets lines).findings = [] ∧ s.findings.length = 1 ∧
      (s.readBrackets lines).findings = s.findings ∧
      (s.readBrackets lines).state.openBrackets = [⟨'(', 3, 5⟩, ⟨'\x7b', 2, 1⟩, ⟨'[', 1, 3⟩, ⟨'(', 1, 2⟩] := by
  intro s lines
  have hquiet : ((start []).readBrackets lines).findings = [] := by decide
  have hR : ((start []).readBrackets lines).state.openBrackets = [⟨'(', 3, 5⟩, ⟨'\x7b', 2, 1⟩] := by decide
  have hS : s.state.openBrackets = [⟨'[', 1, 3⟩, ⟨'(', 1, 2⟩] := by decide
  obtain ⟨hfindings, hstate⟩ := readBrackets_frame rfl hquiet hR hS
  exact ⟨hquiet, by decide, hfindings, congrArg ScanState.openBrackets hstate⟩

end Session

end CodeSmell
