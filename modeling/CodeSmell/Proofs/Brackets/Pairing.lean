import CodeSmell.Proofs.Brackets.Scan
import Mathlib.Data.Finset.Insert
import Mathlib.Data.List.Induction

/-!
# Every bracket is paired or reported

* `IsPairing t M` : the pairs of positions `M` match brackets of the text `t` as the innermost open
  bracket demands;
* `loose` : the openers, or the closers, that no pair holds;
* `Ledger` : what an account of positions says about the text read so far, with one lemma for each
  thing that a character can do;
* `exists_pairing` : the bracket findings of a text are one for each loose closer, in text order, and
  then one for each loose opener, from the last one back.
-/

namespace CodeSmell.Bracket

/-! ## Pairings -/

/-- The position `i` is one of the ends of a pair. -/
def Paired (M : Finset (ℕ × ℕ)) (i : ℕ) : Prop :=
  ∃ p ∈ M, i = p.1 ∨ i = p.2

instance (M : Finset (ℕ × ℕ)) (i : ℕ) : Decidable (Paired M i) :=
  inferInstanceAs (Decidable (∃ p ∈ M, i = p.1 ∨ i = p.2))

def OpenerAt (t : Text) (i : ℕ) : Prop :=
  ∃ o, t[i]? = some o ∧ isOpener o = true

/-- An opener stands at `i`, before `j`, and is paired with no position before `j`. -/
def OpenBefore (t : Text) (M : Finset (ℕ × ℕ)) (j i : ℕ) : Prop :=
  i < j ∧ OpenerAt t i ∧ ∀ k < j, (i, k) ∉ M

/-- The pairs `M` match brackets of the text `t`. -/
structure IsPairing (t : Text) (M : Finset (ℕ × ℕ)) : Prop where
  /-- A pair is an opener and, after it, a closer of the same kind. -/
  kind : ∀ p ∈ M, p.1 < p.2 ∧ ∃ c, t[p.2]? = some c ∧ ∃ o, opener? c = some o ∧ t[p.1]? = some o
  /-- No position is in two pairs. -/
  once : ∀ p ∈ M, ∀ q ∈ M, p.1 = q.1 ∨ p.1 = q.2 ∨ p.2 = q.1 ∨ p.2 = q.2 → p = q
  /-- Pairs do not cross. -/
  uncrossed : ∀ p ∈ M, ∀ q ∈ M, ¬ (p.1 < q.1 ∧ q.1 < p.2 ∧ p.2 < q.2)
  /-- An opener between the ends of a pair is paired. -/
  inside : ∀ p ∈ M, ∀ i, p.1 < i → i < p.2 → OpenerAt t i → Paired M i
  /-- A closer is left alone only if the nearest open bracket before it is of another kind. -/
  alone : ∀ j c o, t[j]? = some c → opener? c = some o → ¬ Paired M j →
    ∀ i, OpenBefore t M j i → (∀ k, OpenBefore t M j k → k ≤ i) → t[i]? ≠ some o

/-- The characters of a kind that are in no pair, with their positions, in text order. -/
def loose (kind : Char → Bool) (t : Text) (M : Finset (ℕ × ℕ)) : List (Char × ℕ) :=
  t.zipIdx.filter fun p => kind p.1 ∧ ¬ Paired M p.2

def isCloser (c : Char) : Bool :=
  (opener? c).isSome

theorem mem_loose {kind : Char → Bool} {t : Text} {M : Finset (ℕ × ℕ)} {c : Char} {i : ℕ} :
    (c, i) ∈ loose kind t M ↔ t[i]? = some c ∧ kind c = true ∧ ¬ Paired M i := by
  rw [loose, List.mem_filter, List.mk_mem_zipIdx_iff_getElem?, decide_eq_true_eq]

theorem pairwise_loose (kind : Char → Bool) (t : Text) (M : Finset (ℕ × ℕ)) :
    (loose kind t M).Pairwise fun p q => p.2 < q.2 :=
  (pairwise_snd_zipIdx t 0).filter _

/-! ## One more character -/

variable {u : Text} {M : Finset (ℕ × ℕ)} {c : Char}

theorem paired_insert {p : ℕ × ℕ} {i : ℕ} :
    Paired (insert p M) i ↔ (i = p.1 ∨ i = p.2) ∨ Paired M i := by
  simp only [Paired, Finset.mem_insert, exists_eq_or_imp]

theorem lt_of_getElem?_eq_some {i : ℕ} (h : u[i]? = some c) : i < u.length :=
  (List.getElem?_eq_some_iff.mp h).1

theorem openerAt_concat_of_lt {i : ℕ} (hi : i < u.length) : OpenerAt (u ++ [c]) i ↔ OpenerAt u i := by
  rw [OpenerAt, OpenerAt, List.getElem?_append_left hi]

theorem openBefore_concat {i j : ℕ} (hj : j ≤ u.length) :
    OpenBefore (u ++ [c]) M j i ↔ OpenBefore u M j i := by
  unfold OpenBefore
  refine and_congr_right fun hi => ?_
  rw [openerAt_concat_of_lt (by omega)]

/-- A pair that ends at `j` or later is not seen before `j`. -/
theorem openBefore_insert {p : ℕ × ℕ} {i j : ℕ} (hp : j ≤ p.2) :
    OpenBefore u (insert p M) j i ↔ OpenBefore u M j i := by
  unfold OpenBefore
  refine and_congr_right fun _ => and_congr_right fun _ => forall₂_congr fun k hk => ?_
  rw [Finset.mem_insert, not_or, and_iff_right]
  rintro rfl
  simp only at hp
  omega

namespace IsPairing

theorem snd_lt (h : IsPairing u M) {p : ℕ × ℕ} (hp : p ∈ M) : p.2 < u.length := by
  obtain ⟨-, c, hc, -⟩ := h.kind p hp
  exact lt_of_getElem?_eq_some hc

/-- The position after the text is in no pair. -/
theorem not_paired_length (h : IsPairing u M) : ¬ Paired M u.length := by
  rintro ⟨p, hp, he⟩
  have h1 := (h.kind p hp).1
  have h2 := h.snd_lt hp
  omega

/-- An opener that is open at the end of the text is in no pair. -/
theorem not_paired_of_openBefore (h : IsPairing u M) {i : ℕ} (hi : OpenBefore u M u.length i) :
    ¬ Paired M i := by
  obtain ⟨-, ⟨o, ho, hop⟩, hopen⟩ := hi
  rintro ⟨p, hp, rfl | rfl⟩
  · exact hopen p.2 (h.snd_lt hp) hp
  · -- the second end of a pair is a closer
    obtain ⟨-, c, hc, o', ho', -⟩ := h.kind p hp
    rw [hc] at ho
    cases ho
    rw [opener?_of_isOpener hop] at ho'
    cases ho'

theorem openBefore_of_mem_loose {o : Char} {i : ℕ} (hi : (o, i) ∈ loose isOpener u M) :
    OpenBefore u M u.length i := by
  obtain ⟨ho, hop, hfree⟩ := mem_loose.mp hi
  exact ⟨lt_of_getElem?_eq_some ho, ⟨o, ho, hop⟩, fun k _ hk => hfree ⟨(i, k), hk, Or.inl rfl⟩⟩

/-- The last loose opener is the nearest open bracket at the end of the text. -/
theorem le_of_getLast?_loose (h : IsPairing u M) {top : Char × ℕ}
    (htop : (loose isOpener u M).getLast? = some top) {i : ℕ} (hi : OpenBefore u M u.length i) :
    i ≤ top.2 := by
  obtain ⟨o, ho, hop⟩ := hi.2.1
  have hmem : (o, i) ∈ loose isOpener u M :=
    mem_loose.mpr ⟨ho, hop, h.not_paired_of_openBefore hi⟩
  obtain ⟨l, hl⟩ := List.getLast?_eq_some_iff.mp htop
  have hsorted := pairwise_loose isOpener u M
  rw [hl] at hmem hsorted
  rcases List.mem_append.mp hmem with hmem | hmem
  · exact le_of_lt ((List.pairwise_append.mp hsorted).2.2 _ hmem top (List.mem_singleton_self _))
  · exact le_of_eq (congrArg Prod.snd (List.mem_singleton.mp hmem))

/-- A character that closes nothing leaves the pairs as they are. If it is a closer, the nearest open
bracket must not be its opener. -/
theorem concat (h : IsPairing u M)
    (hc : ∀ o, opener? c = some o → ∀ top ∈ (loose isOpener u M).getLast?, top.1 ≠ o) :
    IsPairing (u ++ [c]) M where
  kind p hp := by
    obtain ⟨hlt, c', hc', o, ho, hfst⟩ := h.kind p hp
    have h2 := h.snd_lt hp
    refine ⟨hlt, c', ?_, o, ho, ?_⟩
    · rwa [List.getElem?_append_left h2]
    · rwa [List.getElem?_append_left (by omega)]
  once := h.once
  uncrossed := h.uncrossed
  inside p hp i h1 h2 hi := by
    have hlt := h.snd_lt hp
    exact h.inside p hp i h1 h2 ((openerAt_concat_of_lt (by omega)).mp hi)
  alone j c' o hj ho hfree i hi hnear := by
    have hj' := lt_of_getElem?_eq_some hj
    rw [List.length_append, List.length_singleton] at hj'
    have hle : j ≤ u.length := by omega
    simp only [openBefore_concat hle] at hi hnear
    rw [List.getElem?_append_left (by have := hi.1; omega)]
    rcases Nat.lt_or_ge j u.length with hlt | hge
    · rw [List.getElem?_append_left hlt] at hj
      exact h.alone j c' o hj ho hfree i hi hnear
    · -- the new character: its nearest open bracket is the last loose opener
      obtain rfl : j = u.length := by omega
      obtain rfl : c' = c := by simpa using hj.symm
      obtain ⟨o', ho', hop⟩ := hi.2.1
      have hmem : (o', i) ∈ loose isOpener u M :=
        mem_loose.mpr ⟨ho', hop, h.not_paired_of_openBefore hi⟩
      obtain ⟨top, htop⟩ := Option.isSome_iff_exists.mp
        (List.getLast?_isSome.mpr (List.ne_nil_of_mem hmem))
      have hlast := List.mem_of_getLast? htop
      have heq : top.2 = i := le_antisymm (hnear _ (openBefore_of_mem_loose hlast))
        (h.le_of_getLast?_loose htop hi)
      have htext := (mem_loose.mp hlast).1
      rw [heq] at htext
      rw [htext]
      exact fun he => hc o ho top htop (Option.some.inj he)

/-- A closer of the nearest open bracket makes a pair with it. -/
theorem close (h : IsPairing u M) {top : Char × ℕ} (htop : (loose isOpener u M).getLast? = some top)
    (hc : opener? c = some top.1) : IsPairing (u ++ [c]) (insert (top.2, u.length) M) := by
  have hlast := List.mem_of_getLast? htop
  obtain ⟨htext, hop, hfree⟩ := mem_loose.mp hlast
  have hlt := lt_of_getElem?_eq_some htext
  have hend := h.not_paired_length
  have hfst : ∀ p ∈ M, p.1 ≠ top.2 ∧ p.2 ≠ top.2 ∧ p.1 ≠ u.length ∧ p.2 ≠ u.length := fun p hp =>
    ⟨fun e => hfree ⟨p, hp, Or.inl e.symm⟩, fun e => hfree ⟨p, hp, Or.inr e.symm⟩,
      fun e => hend ⟨p, hp, Or.inl e.symm⟩, fun e => hend ⟨p, hp, Or.inr e.symm⟩⟩
  refine { kind := ?kind, once := ?once, uncrossed := ?uncrossed, inside := ?inside, alone := ?alone }
  case kind =>
    intro p hp
    rcases Finset.mem_insert.mp hp with rfl | hp
    · exact ⟨hlt, c, by simp, top.1, hc, by rwa [List.getElem?_append_left hlt]⟩
    · obtain ⟨h12, c', hc', o, ho, hfst⟩ := h.kind p hp
      have h2 := h.snd_lt hp
      exact ⟨h12, c', by rwa [List.getElem?_append_left h2], o, ho,
        by rwa [List.getElem?_append_left (by omega)]⟩
  case once =>
    intro p hp q hq he
    rcases Finset.mem_insert.mp hp with rfl | hp <;> rcases Finset.mem_insert.mp hq with rfl | hq
    · rfl
    · have := hfst q hq
      omega
    · have := hfst p hp
      simp only at he
      omega
    · exact h.once p hp q hq he
  case uncrossed =>
    intro p hp q hq hx
    rcases Finset.mem_insert.mp hp with rfl | hp <;> rcases Finset.mem_insert.mp hq with rfl | hq
    · omega
    · have := h.snd_lt hq
      omega
    · exact hfree (h.inside p hp top.2 hx.1 hx.2.1 ⟨top.1, htext, hop⟩)
    · exact h.uncrossed p hp q hq hx
  case inside =>
    intro p hp i h1 h2 hi
    rw [paired_insert]
    rcases Finset.mem_insert.mp hp with rfl | hp
    · refine Or.inr (by_contra fun hn => ?_)
      rw [openerAt_concat_of_lt h2] at hi
      have := h.le_of_getLast?_loose htop
        ⟨h2, hi, fun k _ hk => hn ⟨(i, k), hk, Or.inl rfl⟩⟩
      omega
    · have h3 := h.snd_lt hp
      exact Or.inr (h.inside p hp i h1 h2 ((openerAt_concat_of_lt (by omega)).mp hi))
  case alone =>
    -- the new closer is paired, so the position is an old one
    intro j c' o hj ho hn i hi hnear
    rw [paired_insert, not_or] at hn
    have hj' := lt_of_getElem?_eq_some hj
    rw [List.length_append, List.length_singleton] at hj'
    have hjlt : j < u.length := by
      have := hn.1
      omega
    simp only [openBefore_insert (M := M) (p := (top.2, u.length)) hjlt.le,
      openBefore_concat hjlt.le] at hi hnear
    rw [List.getElem?_append_left hjlt] at hj
    rw [List.getElem?_append_left (by have := hi.1; omega)]
    exact h.alone j c' o hj ho hn.2 i hi hnear

end IsPairing

theorem loose_concat (kind : Char → Bool) (u : Text) (c : Char) (M : Finset (ℕ × ℕ)) :
    loose kind (u ++ [c]) M =
      loose kind u M ++ if kind c ∧ ¬ Paired M u.length then [(c, u.length)] else [] := by
  rw [loose, List.zipIdx_append, List.filter_append, List.zipIdx_singleton, Nat.zero_add, loose,
    List.filter_singleton]
  congr 1
  split_ifs with h <;> simp [h]

theorem loose_insert (kind : Char → Bool) (u : Text) (p : ℕ × ℕ) (M : Finset (ℕ × ℕ)) :
    loose kind u (insert p M) = (loose kind u M).filter fun q => q.2 ≠ p.1 ∧ q.2 ≠ p.2 := by
  rw [loose, loose, List.filter_filter]
  refine List.filter_congr fun q _ => ?_
  rw [← Bool.decide_and]
  refine decide_eq_decide.mpr ?_
  rw [paired_insert]
  tauto

/-! ## The whole text -/

/-- The account `a` of the positions of `u` keeps a pairing, and beside it what the pairing leaves. -/
structure Ledger (u : Text) (a : Account ℕ) : Prop where
  pairing : IsPairing u a.pairs.toFinset
  opened : a.opened = (loose isOpener u a.pairs.toFinset).reverse
  stray : a.stray = (loose isCloser u a.pairs.toFinset).reverse

namespace Ledger

variable {a : Account ℕ}

/-- The innermost open bracket is the last loose opener. -/
theorem getLast?_loose (h : Ledger u a) :
    (loose isOpener u a.pairs.toFinset).getLast? = a.opened.head? := by
  rw [h.opened, List.head?_reverse]

theorem other (h : Ledger u a) (hc : isBracket c = false) : Ledger (u ++ [c]) a := by
  obtain ⟨hopener, hcloser⟩ := Bool.or_eq_false_iff.mp hc
  have hnone : opener? c = none := by simpa using hcloser
  refine ⟨h.pairing.concat fun o ho => ?_, ?_, ?_⟩
  · rw [hnone] at ho
    cases ho
  · rw [loose_concat, if_neg (by simp [hopener]), List.append_nil, h.opened]
  · rw [loose_concat, if_neg (by simp [isCloser, hcloser]), List.append_nil, h.stray]

theorem opens (h : Ledger u a) (hc : isOpener c = true) :
    Ledger (u ++ [c]) { a with opened := (c, u.length) :: a.opened } := by
  have hnone := opener?_of_isOpener hc
  refine ⟨h.pairing.concat fun o ho => ?_, ?_, ?_⟩
  · rw [hnone] at ho
    cases ho
  · rw [loose_concat, if_pos ⟨hc, h.pairing.not_paired_length⟩, List.reverse_append, h.opened]
    rfl
  · rw [loose_concat, if_neg (by simp [isCloser, hnone]), List.append_nil, h.stray]

theorem closes (h : Ledger u a) {top : Char × ℕ} {below : List (Char × ℕ)}
    (hc : opener? c = some top.1) (ha : a.opened = top :: below) :
    Ledger (u ++ [c]) { a with opened := below, pairs := (top.2, u.length) :: a.pairs } := by
  have htop : (loose isOpener u a.pairs.toFinset).getLast? = some top := by
    rw [h.getLast?_loose, ha, List.head?_cons]
  have hpairing := h.pairing.close htop hc
  have hend : Paired (insert (top.2, u.length) a.pairs.toFinset) u.length :=
    paired_insert.mpr (Or.inl (Or.inr rfl))
  obtain ⟨htext, hop, -⟩ := mem_loose.mp (List.mem_of_getLast? htop)
  rw [← List.toFinset_cons] at hpairing
  refine ⟨hpairing, ?_, ?_⟩
  · -- the last loose opener goes, and the positions of the others differ from its own
    have hloose : loose isOpener u a.pairs.toFinset = below.reverse ++ [top] := by
      rw [← List.reverse_cons, ← ha, h.opened, List.reverse_reverse]
    have hsorted := pairwise_loose isOpener u a.pairs.toFinset
    have hkeep : ∀ q ∈ below.reverse, q.2 ≠ top.2 ∧ q.2 ≠ u.length := by
      intro q hq
      rw [hloose] at hsorted
      have hlt := (List.pairwise_append.mp hsorted).2.2 q hq top (List.mem_singleton_self _)
      have htlt := lt_of_getElem?_eq_some htext
      omega
    simp only [List.toFinset_cons]
    rw [loose_concat, if_neg (by simp [hend]), List.append_nil, loose_insert, hloose, List.filter_append,
      List.filter_eq_self.mpr (by simpa using hkeep)]
    simp
  · -- no loose closer stands at either end of the new pair
    have hkeep : ∀ q ∈ loose isCloser u a.pairs.toFinset, q.2 ≠ top.2 ∧ q.2 ≠ u.length := by
      rintro ⟨c', i⟩ hq
      obtain ⟨hi, hcl, -⟩ := mem_loose.mp hq
      refine ⟨fun he => ?_, (lt_of_getElem?_eq_some hi).ne⟩
      simp only at he
      rw [he, htext] at hi
      rw [← Option.some.inj hi, isCloser, opener?_of_isOpener hop] at hcl
      cases hcl
    simp only [List.toFinset_cons]
    rw [loose_concat, if_neg (by simp [hend]), List.append_nil, loose_insert,
      List.filter_eq_self.mpr (by simpa using hkeep), h.stray]

theorem strays (h : Ledger u a) {o : Char} (hc : opener? c = some o)
    (htop : ∀ top ∈ a.opened.head?, top.1 ≠ o) :
    Ledger (u ++ [c]) { a with stray := (c, u.length) :: a.stray } := by
  refine ⟨h.pairing.concat fun o' ho' => ?_, ?_, ?_⟩
  · rw [hc] at ho'
    cases ho'
    rwa [h.getLast?_loose]
  · rw [loose_concat, if_neg (by simp [isOpener_eq_false hc]), List.append_nil, h.opened]
  · rw [loose_concat, if_pos ⟨by simp [isCloser, hc], h.pairing.not_paired_length⟩, List.reverse_append,
      h.stray]
    rfl

/-- One more character keeps the ledger. -/
theorem read (h : Ledger u a) (c : Char) : Ledger (u ++ [c]) (a.read (c, u.length)) := by
  have hstep := Account.step_read a (c, u.length)
  generalize a.read (c, u.length) = b at hstep
  cases hstep with
  | other hc => exact h.other hc
  | opens hc => exact h.opens hc
  | closes hc ha => exact h.closes hc ha
  | strays hc htop => exact h.strays hc htop

end Ledger

theorem ledger_account (u : Text) : Ledger u (account u.zipIdx) := by
  induction u using List.reverseRecOn with
  | nil =>
    have hempty : IsPairing [] ∅ := ⟨by simp, by simp, by simp, by simp, by simp⟩
    exact ⟨hempty, rfl, rfl⟩
  | append_singleton u c ih =>
    rw [List.zipIdx_append, List.zipIdx_singleton, Nat.zero_add, account_concat]
    exact ih.read c

/-- **Every bracket of a text is in one pair or in one finding.** The stray closers are reported in text
order, with their characters and lines, and after them the unclosed openers, the last one first. -/
theorem exists_pairing (t : Text) :
    ∃ M : Finset (ℕ × ℕ), IsPairing t M ∧
      (analyze t).filter (·.rule = Rule.unmatchedBracket.name) =
        ((loose isCloser t M).map fun p =>
          (Smell.strayCloser p.1).onLine (Text.lineNumber t p.2) (Text.lineHolding t p.2)) ++
        (loose isOpener t M).reverse.map fun p =>
          (Smell.unclosedOpener p.1).finding (some (Text.lineNumber t p.2)) none := by
  have hledger := ledger_account t
  refine ⟨(account t.zipIdx).pairs.toFinset, hledger.pairing, ?_⟩
  refine (bracketFindings_analyze t).trans ?_
  rw [hledger.stray, hledger.opened, List.reverse_reverse]
  rfl

end CodeSmell.Bracket
