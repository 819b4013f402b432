import CodeSmell.Proofs.Brackets.Scan
import Mathlib.Data.List.Induction

/-!
# Closing what is open

The brackets that are still open are reported from the innermost one outwards, which is the order in which they
have to be closed. So a text is repaired by the closers of these reports, put at its end in the order of the
reports.

* `unclosed?`, `stray?` : the bracket that a finding tells to be open at the end, or to be stray;
* `closer?` : the closing bracket of an opener; `missingClosers t` : those of the brackets that are reported open;
* `foldl_read_closers` : closers in the order of the open brackets close them all and are not stray;
* `filterMap_unclosed?_analyze`, `filter_isStray_analyze` : the reports of a text and its account;
* `missingClosers_repair` : with its missing closers a text has no open bracket, and its stray closers stay.
-/

namespace CodeSmell.Bracket

open Text

/-! ## What a finding tells -/

/-- The bracket that a finding about brackets names after the words `w`. -/
def namedAfter? (w : Text) (f : Finding) : Option Char :=
  if Finding.isOf .unmatchedBracket f then (after? w f.message).bind List.head? else none

/-- The opening bracket that a finding reports as never closed. -/
def unclosed? (f : Finding) : Option Char :=
  namedAfter? "Unmatched opening bracket '".toList f

/-- The closing bracket that a finding reports as stray. -/
def stray? (f : Finding) : Option Char :=
  namedAfter? "Unmatched bracket '".toList f

def isStray (f : Finding) : Bool :=
  (stray? f).isSome

theorem namedAfter?_finding {m : Smell} (hm : m.rule = .unmatchedBracket) (w : Text) (line : Option Int)
    (snippet : Option Text) :
    namedAfter? w (m.finding line snippet) = (after? w m.message).bind List.head? := by
  unfold namedAfter?
  rw [if_pos (by rw [Finding.isOf_finding, hm]; rfl)]
  rfl

section
variable (p : Char × Spot)

@[simp] theorem unclosed?_unclosedFinding : unclosed? (unclosedFinding p) = some p.1 :=
  namedAfter?_finding rfl _ _ _

@[simp] theorem unclosed?_strayFinding : unclosed? (strayFinding p) = none :=
  namedAfter?_finding rfl _ _ _

@[simp] theorem isStray_strayFinding : isStray (strayFinding p) = true :=
  congrArg Option.isSome (namedAfter?_finding rfl _ _ _)

@[simp] theorem isStray_unclosedFinding : isStray (unclosedFinding p) = false :=
  congrArg Option.isSome (namedAfter?_finding rfl _ _ _)

end

theorem namedAfter?_of_not_isOf {w : Text} {f : Finding} (h : Finding.isOf .unmatchedBracket f = false) :
    namedAfter? w f = none := by
  unfold namedAfter?
  rw [h]
  rfl

/-! ## Reports and accounts -/

/-- The brackets that are reported open are those of the account, the innermost first. -/
theorem filterMap_unclosed?_analyze (t : Text) :
    (analyze t).filterMap unclosed? = (account t.zipIdx).opened.map Prod.fst := by
  have hrule : (analyze t).filterMap unclosed? =
      ((analyze t).filter (Finding.isOf .unmatchedBracket)).filterMap unclosed? := by
    rw [List.filterMap_filter]
    refine List.filterMap_congr fun f _ => ?_
    by_cases hf : Finding.isOf .unmatchedBracket f = true
    · rw [if_pos hf]
    · rw [if_neg hf]
      exact namedAfter?_of_not_isOf (Bool.eq_false_iff.mpr hf)
  have hstray : ∀ p ∈ (account t.zipIdx).stray.reverse,
      (unclosed? ∘ fun p => strayFinding (p.1, spotAt t p.2)) p = none :=
    fun p _ => unclosed?_strayFinding _
  rw [hrule, bracketFindings_analyze, List.filterMap_append, List.filterMap_map, List.filterMap_map,
    List.filterMap_eq_nil_iff.mpr hstray, List.nil_append, ← List.filterMap_eq_map]
  refine List.filterMap_congr fun p _ => ?_
  exact unclosed?_unclosedFinding _

theorem filter_isStray_analyze (t : Text) :
    (analyze t).filter isStray =
      (account t.zipIdx).stray.reverse.map fun p => strayFinding (p.1, spotAt t p.2) := by
  have hrule : (analyze t).filter isStray =
      ((analyze t).filter (Finding.isOf .unmatchedBracket)).filter isStray := by
    rw [List.filter_filter]
    refine List.filter_congr fun f _ => ?_
    cases hf : Finding.isOf .unmatchedBracket f with
    | true => rw [Bool.and_true]
    | false =>
      rw [isStray, stray?, namedAfter?_of_not_isOf hf]
      rfl
  have hunclosed : ((account t.zipIdx).opened.map fun p => unclosedFinding (p.1, spotAt t p.2)).filter isStray =
      [] := by
    rw [List.filter_eq_nil_iff, List.forall_mem_map]
    intro p _
    rw [isStray_unclosedFinding]
    exact Bool.false_ne_true
  rw [hrule, bracketFindings_analyze, List.filter_append, hunclosed, List.append_nil, List.filter_eq_self,
    List.forall_mem_map]
  exact fun p _ => isStray_strayFinding _

/-! ## Closing all -/

def closer? : Char → Option Char
  | '(' => some ')'
  | '[' => some ']'
  | '\x7b' => some '\x7d'
  | _ => none

theorem opener?_closer? {o : Char} (h : isOpener o = true) : ∃ c, closer? o = some c ∧ opener? c = some o := by
  simp only [isOpener, Bool.or_eq_true, beq_iff_eq] at h
  rcases h with (rfl | rfl) | rfl
  · exact ⟨')', rfl, rfl⟩
  · exact ⟨']', rfl, rfl⟩
  · exact ⟨'\x7d', rfl, rfl⟩

theorem map_opener?_filterMap_closer? {w : Text} (h : ∀ o ∈ w, isOpener o = true) :
    (w.filterMap closer?).map opener? = w.map some := by
  induction w with
  | nil => rfl
  | cons o w ih =>
    obtain ⟨c, hc, ho⟩ := opener?_closer? (h o List.mem_cons_self)
    rw [List.filterMap_cons_some hc, List.map_cons, ho, ih fun x hx => h x (List.mem_cons_of_mem _ hx)]
    rfl

section
variable {α : Type}

/-- Closers in the order of the open brackets, the innermost first, close them all, and none of them strays. -/
theorem foldl_read_closers {v : List (Char × α)} {a : Account α}
    (h : v.map (fun p => opener? p.1) = a.opened.map fun p => some p.1) :
    (v.foldl Account.read a).opened = [] ∧ (v.foldl Account.read a).stray = a.stray := by
  induction v generalizing a with
  | nil => exact ⟨List.map_eq_nil_iff.mp h.symm, rfl⟩
  | cons p v ih =>
    obtain ⟨top, below, hopened, htop, hbelow⟩ := List.map_eq_cons_iff.mp h.symm
    rw [List.foldl_cons, Account.read_closes htop.symm hopened]
    exact ih hbelow.symm

/-- What an account keeps open are openers, and its stray closers are characters of the word. -/
theorem opened_and_stray_account (w : List (Char × α)) :
    (∀ q ∈ (account w).opened, isOpener q.1 = true) ∧ ∀ q ∈ (account w).stray, q ∈ w := by
  induction w using List.reverseRecOn with
  | nil => exact ⟨fun q hq => (List.not_mem_nil hq).elim, fun q hq => (List.not_mem_nil hq).elim⟩
  | append_singleton w p ih =>
    obtain ⟨hopened, hstray⟩ := ih
    have hkeep : ∀ q ∈ (account w).stray, q ∈ w ++ [p] := fun q hq => List.mem_append_left _ (hstray q hq)
    have hstep := Account.step_read (account w) p
    rw [account_concat]
    generalize (account w).read p = b at hstep
    cases hstep with
    | other => exact ⟨hopened, hkeep⟩
    | opens hp => exact ⟨List.forall_mem_cons.mpr ⟨hp, hopened⟩, hkeep⟩
    | closes _ ha =>
      rw [ha] at hopened
      exact ⟨(List.forall_mem_cons.mp hopened).2, hkeep⟩
    | strays => exact ⟨hopened, List.forall_mem_cons.mpr ⟨by simp, hkeep⟩⟩

end

/-! ## The repaired text -/

/-- The closers of the brackets that the analysis reports as never closed, in the order of the reports. -/
def missingClosers (t : Text) : Text :=
  ((analyze t).filterMap unclosed?).filterMap closer?

/-- There is one missing closer for each report, and it is of the same kind. -/
theorem map_opener?_missingClosers (t : Text) :
    (missingClosers t).map opener? = ((analyze t).filterMap unclosed?).map some := by
  refine map_opener?_filterMap_closer? ?_
  rw [filterMap_unclosed?_analyze, List.forall_mem_map]
  exact (opened_and_stray_account t.zipIdx).1

theorem account_append_missingClosers (t : Text) :
    (account (t ++ missingClosers t).zipIdx).opened = [] ∧
      (account (t ++ missingClosers t).zipIdx).stray = (account t.zipIdx).stray := by
  rw [account, List.zipIdx_append, List.foldl_append, ← account]
  refine foldl_read_closers ?_
  have hclosers := map_opener?_missingClosers t
  rw [filterMap_unclosed?_analyze, List.map_map] at hclosers
  calc ((missingClosers t).zipIdx (0 + t.length)).map (fun p => opener? p.1)
      = (((missingClosers t).zipIdx (0 + t.length)).map Prod.fst).map opener? := by rw [List.map_map]; rfl
    _ = (missingClosers t).map opener? := by rw [List.zipIdx_map_fst]
    _ = (account t.zipIdx).opened.map fun p => some p.1 := hclosers

/-- **The reports of open brackets tell how to close them.** Put behind the text in the order of the reports, the
closers of the reported brackets leave no bracket open. They are not stray, and the stray closers of the text are
reported as before, with the same messages and lines. -/
theorem missingClosers_repair (t : Text) :
    (missingClosers t).map opener? = ((analyze t).filterMap unclosed?).map some ∧
    (∀ f ∈ analyze (t ++ missingClosers t), unclosed? f = none) ∧
    ((analyze (t ++ missingClosers t)).filter isStray).map (fun f => (f.message, f.line)) =
      ((analyze t).filter isStray).map fun f => (f.message, f.line) := by
  obtain ⟨hopened, hstray⟩ := account_append_missingClosers t
  refine ⟨map_opener?_missingClosers t, ?_, ?_⟩
  · rw [← List.filterMap_eq_nil_iff, filterMap_unclosed?_analyze, hopened, List.map_nil]
  · rw [filter_isStray_analyze, filter_isStray_analyze, hstray, List.map_map, List.map_map]
    refine List.map_congr_left fun p hp => ?_
    -- a stray closer stands in the text, before what is put behind it
    have hlt := List.snd_lt_of_mem_zipIdx ((opened_and_stray_account t.zipIdx).2 p (List.mem_reverse.mp hp))
    have hline : lineNumber (t ++ missingClosers t) p.2 = lineNumber t p.2 :=
      lineNumber_append (by omega) _
    simp only [Function.comp_apply, strayFinding, Smell.onLine, Smell.finding, spotAt, hline]

example : missingClosers "f(a]\n[\r\n\x7b)b".toList = "\x7d])".toList := by decide

end CodeSmell.Bracket
