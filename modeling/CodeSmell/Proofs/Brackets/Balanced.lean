import CodeSmell.Proofs.Brackets.Scan
import Mathlib.Data.List.Induction

/-!
# Balanced brackets

* `Balanced` : the well-balanced words over three kinds of brackets;
* `Balanced.neutral` : reading a balanced word leaves open what was open and makes nothing stray;
* `Leaves s w` : the word `w` is balanced but for the brackets `s`, which it leaves open;
* `leaves_account` : a word without stray closers is balanced but for what its account has open;
* `no_bracketFinding_iff_balanced` : a text is free of bracket findings exactly when its brackets are
  balanced.
-/

namespace CodeSmell.Bracket

/-! ## Words of brackets -/

def bracketsOf (t : Text) : Text :=
  t.filter fun c => c ∈ ['(', ')', '[', ']', '\x7b', '\x7d']

/-- Well-balanced words of brackets of three kinds. -/
inductive Balanced : Text → Prop
  | nil : Balanced []
  | append {u v : Text} : Balanced u → Balanced v → Balanced (u ++ v)
  | round {w : Text} : Balanced w → Balanced ('(' :: w ++ [')'])
  | square {w : Text} : Balanced w → Balanced ('[' :: w ++ [']'])
  | curly {w : Text} : Balanced w → Balanced ('\x7b' :: w ++ ['\x7d'])

theorem Balanced.enclose {c o : Char} (h : opener? c = some o) {w : Text} (hw : Balanced w) :
    Balanced (o :: w ++ [c]) := by
  unfold opener? at h
  split at h
  · cases h
    exact hw.round
  · cases h
    exact hw.square
  · cases h
    exact hw.curly
  · cases h

theorem isBracket_iff_mem (c : Char) :
    isBracket c = true ↔ c ∈ ['(', ')', '[', ']', '\x7b', '\x7d'] := by
  constructor
  · intro h
    simp only [isBracket, isOpener, Bool.or_eq_true, beq_iff_eq] at h
    rcases h with ((rfl | rfl) | rfl) | h
    · decide
    · decide
    · decide
    · unfold opener? at h
      split at h
      · decide
      · decide
      · decide
      · cases h
  · intro h
    simp only [List.mem_cons, List.not_mem_nil, or_false] at h
    rcases h with rfl | rfl | rfl | rfl | rfl | rfl <;> rfl

theorem bracketsOf_eq (t : Text) : bracketsOf t = t.filter isBracket := by
  refine List.filter_congr fun c _ => ?_
  rw [Bool.eq_iff_iff, decide_eq_true_eq, isBracket_iff_mem]

/-! ## Balanced words are neutral -/

/-- Reading the word, whatever its tags, changes neither what is open nor what is stray. -/
def Neutral (w : Text) : Prop :=
  ∀ {α : Type} (v : List (Char × α)), v.map Prod.fst = w → ∀ a : Account α,
    (v.foldl Account.read a).opened = a.opened ∧ (v.foldl Account.read a).stray = a.stray

theorem Neutral.append {u v : Text} (hu : Neutral u) (hv : Neutral v) : Neutral (u ++ v) := by
  intro α x hx a
  obtain ⟨x₁, x₂, rfl, h₁, h₂⟩ := List.map_eq_append_iff.mp hx
  obtain ⟨hopened, hstray⟩ := hv x₂ h₂ (x₁.foldl Account.read a)
  rw [List.foldl_append, hopened, hstray]
  exact hu x₁ h₁ a

/-- The opener goes on the stack, the word inside leaves it there, and the closer takes it off. -/
theorem Neutral.enclose {c o : Char} (h : opener? c = some o) {w : Text} (hw : Neutral w) :
    Neutral (o :: w ++ [c]) := by
  intro α x hx a
  obtain ⟨x₁, x₂, rfl, h₁, h₂⟩ := List.map_eq_append_iff.mp hx
  obtain ⟨p, y, rfl, rfl, hy⟩ := List.map_eq_cons_iff.mp h₁
  obtain ⟨q, z, rfl, rfl, hz⟩ := List.map_eq_cons_iff.mp h₂
  obtain rfl := List.map_eq_nil_iff.mp hz
  obtain ⟨hopened, hstray⟩ := hw y hy (a.read p)
  have hpush := Account.read_opens (a := a) (isOpener_of_opener? h)
  rw [hpush] at hopened hstray
  rw [List.foldl_append, List.foldl_cons, List.foldl_cons, List.foldl_nil, hpush,
    Account.read_closes h hopened]
  exact ⟨rfl, hstray⟩

theorem Balanced.neutral {w : Text} (h : Balanced w) : Neutral w := by
  induction h with
  | nil =>
    intro α x hx a
    obtain rfl := List.map_eq_nil_iff.mp hx
    exact ⟨rfl, rfl⟩
  | append _ _ hu hv => exact hu.append hv
  | round _ hw => exact hw.enclose (c := ')') rfl
  | square _ hw => exact hw.enclose (c := ']') rfl
  | curly _ hw => exact hw.enclose (c := '\x7d') rfl

/-! ## What a word leaves open -/

/-- The word `w` is balanced but for the brackets `s` that it leaves open, the innermost first. -/
inductive Leaves : Text → Text → Prop
  | closed {w : Text} : Balanced w → Leaves [] w
  | opened {s u v : Text} {o : Char} : Leaves s u → Balanced v → Leaves (o :: s) (u ++ o :: v)

theorem Leaves.append {s w v : Text} (h : Leaves s w) (hv : Balanced v) : Leaves s (w ++ v) := by
  cases h with
  | closed hw => exact .closed (hw.append hv)
  | opened hu hw =>
    rw [List.append_assoc, List.cons_append]
    exact hu.opened (hw.append hv)

/-- A closer of the innermost open bracket balances all from that bracket on. -/
theorem Leaves.close {s w : Text} {c o : Char} (hc : opener? c = some o) (h : Leaves (o :: s) w) :
    Leaves s (w ++ [c]) := by
  cases h with
  | @opened _ u v _ hu hv =>
    have := hu.append (hv.enclose hc)
    rwa [← List.append_assoc] at this

theorem leaves_account {α : Type} (v : List (Char × α)) (h : (account v).stray = []) :
    Leaves ((account v).opened.map Prod.fst) ((v.map Prod.fst).filter isBracket) := by
  induction v using List.reverseRecOn with
  | nil => exact .closed .nil
  | append_singleton v p ih =>
    rw [account_concat] at h ⊢
    rw [List.map_append, List.filter_append, List.map_singleton, List.filter_singleton]
    have hstep := Account.step_read (account v) p
    generalize (account v).read p = b at h hstep
    cases hstep with
    | other hp =>
      rw [hp, Bool.cond_false, List.append_nil]
      exact ih h
    | opens hp =>
      have hb : isBracket p.1 = true := by simp [isBracket, hp]
      rw [hb, Bool.cond_true, List.map_cons]
      exact (ih h).opened .nil
    | closes hc hopened =>
      have hb : isBracket p.1 = true := by simp [isBracket, hc]
      have hleaves := ih h
      rw [hopened, List.map_cons] at hleaves
      rw [hb, Bool.cond_true]
      exact hleaves.close hc
    | strays => cases h

/-- An account is clean exactly when its word is balanced. -/
theorem account_clean_iff {α : Type} (v : List (Char × α)) :
    (account v).opened = [] ∧ (account v).stray = [] ↔ Balanced ((v.map Prod.fst).filter isBracket) := by
  constructor
  · rintro ⟨hopened, hstray⟩
    have hleaves := leaves_account v hstray
    rw [hopened] at hleaves
    cases hleaves with
    | closed hw => exact hw
  · intro hw
    rw [← account_filter]
    exact hw.neutral (v.filter (isBracket ·.1)) (by rw [List.filter_map]; rfl) {}

/-- **A text has no bracket finding exactly when its brackets are balanced.** -/
theorem no_bracketFinding_iff_balanced (t : Text) :
    (∀ f ∈ analyze t, f.rule ≠ Rule.unmatchedBracket.name) ↔ Balanced (bracketsOf t) := by
  have hfilter : (∀ f ∈ analyze t, f.rule ≠ Rule.unmatchedBracket.name) ↔
      (analyze t).filter (Finding.isOf .unmatchedBracket) = [] := by
    rw [List.filter_eq_nil_iff]
    simp [Finding.isOf]
  have hclean := account_clean_iff t.zipIdx
  rw [List.zipIdx_map_fst, ← bracketsOf_eq] at hclean
  rw [hfilter, bracketFindings_analyze, List.append_eq_nil_iff, List.map_eq_nil_iff, List.map_eq_nil_iff,
    List.reverse_eq_nil_iff, and_comm, hclean]

end CodeSmell.Bracket
