import CodeSmell.Proofs.Scan.Legible
import CodeSmell.Proofs.Scores
import CodeSmell.Report

/-!
# Reading a report back

A report puts rules, messages and lines of the text together without any escapes. It can be read back
all the same, because of what the findings of an analysis are made of.

* `Finding.Alike` : findings that differ at most in the blanks around their excerpts;
* `headline`, `lineNote` : the first line of a paragraph, and what it says of the line of the finding;
* `formatFinding_append_inj` : the paragraph of a legible finding tells the finding, with any text behind it;
* `formatReport_eq_iff` : legible findings have the same report exactly when they are alike one by one;
* `formatReport_analyze_eq_iff` : the same for the reports of two texts, which then have the same score.
-/

namespace CodeSmell

open Text

/-- The two findings differ at most in the blanks around their excerpts. -/
structure Finding.Alike (f g : Finding) : Prop where
  rule : f.rule = g.rule
  severity : f.severity = g.severity
  message : f.message = g.message
  line : f.line = g.line
  snippet : f.snippet.map strip = g.snippet.map strip

/-! ## The first line of a paragraph -/

def lineNote (line : Option Int) : Text :=
  line.elim [] fun n => "  (line ".toList ++ ofInt n ++ ")".toList

/-- The first line of the paragraph of a finding. -/
def headline (i : Nat) (f : Finding) : Text :=
  ofNat i ++ ". [".toList ++ (f.rule ++ ']' :: ' ' :: (f.message ++ lineNote f.line))

theorem formatFinding_eq (i : Nat) (f : Finding) :
    formatFinding i f = headline i f ++ '\n' :: (formatSnippet f.snippet ++ ['\n']) := by
  simp [formatFinding, headline, lineNote]

theorem feed_notMem_lineNote (line : Option Int) : '\n' ∉ lineNote line := by
  have hint : ∀ n, '\n' ∉ ofInt n := notMem_ofInt (by decide) (by decide)
  cases line with
  | none => exact List.not_mem_nil
  | some n => simp [lineNote, hint]

theorem feed_notMem_headline {f : Finding} (hf : f.Legible) (i : Nat) : '\n' ∉ headline i f := by
  have hnat : ∀ n, '\n' ∉ ofNat n := notMem_ofNat (by decide)
  have hrule : '\n' ∉ f.rule := by
    obtain ⟨r, hr, -⟩ := hf.rule
    rw [hr]
    exact r.notMem_name.2
  simp [headline, hnat, hrule, hf.message.2, feed_notMem_lineNote]

/-- A sentence is told from the note behind it: it ends in a full stop and the note does not, and the
number is what comes after the last blank. -/
theorem append_lineNote_inj {m m' : Text} {line line' : Option Int} (hm : IsSentence m)
    (hm' : IsSentence m') (h : m ++ lineNote line = m' ++ lineNote line') : m = m' ∧ line = line' := by
  have hlast : ∀ (t : Text) (n : Int), (t ++ lineNote (some n)).getLast? = some ')' := by
    intro t n
    simp [lineNote, List.getLast?_append, List.getLast?_cons]
  have hclash : ∀ {t u : Text} {n : Int}, IsSentence t → t ≠ u ++ lineNote (some n) := by
    intro t u n ht he
    have hend := ht.1
    rw [he, hlast] at hend
    cases hend
  cases line with
  | none =>
    cases line' with
    | none => exact ⟨List.append_cancel_right h, rfl⟩
    | some n' => exact absurd ((List.append_nil m).symm.trans h) (hclash hm)
  | some n =>
    cases line' with
    | none => exact absurd ((List.append_nil m').symm.trans h.symm) (hclash hm')
    | some n' =>
      have hblank : ∀ n : Int, ' ' ∉ (ofInt n ++ [')']).reverse := by
        intro n
        simp [notMem_ofInt (c := ' ') (by decide) (by decide) n]
      have hrev : ∀ (t : Text) (n : Int), (t ++ lineNote (some n)).reverse =
          (ofInt n ++ [')']).reverse ++ ' ' :: (t ++ "  (line".toList).reverse := by
        intro t n
        simp [lineNote]
      have hback := congrArg List.reverse h
      rw [hrev, hrev] at hback
      obtain ⟨hnumber, hfront⟩ := append_sep_inj (hblank n) (hblank n') hback
      refine ⟨List.append_cancel_right (List.reverse_injective hfront), ?_⟩
      rw [ofInt_injective (List.append_cancel_right (List.reverse_injective hnumber))]

theorem headline_inj {f g : Finding} (hf : f.Legible) (hg : g.Legible) {i : Nat}
    (h : headline i f = headline i g) : f.rule = g.rule ∧ f.message = g.message ∧ f.line = g.line := by
  obtain ⟨r, hr, -⟩ := hf.rule
  obtain ⟨r', hr', -⟩ := hg.rule
  have hbracket : ']' ∉ f.rule := by rw [hr]; exact r.notMem_name.1
  have hbracket' : ']' ∉ g.rule := by rw [hr']; exact r'.notMem_name.1
  obtain ⟨hrule, hrest⟩ := append_sep_inj hbracket hbracket' (List.append_cancel_left h)
  obtain ⟨hmessage, hline⟩ := append_lineNote_inj hf.message hg.message (List.cons.inj hrest).2
  exact ⟨hrule, hmessage, hline⟩

/-! ## Excerpts -/

theorem strip_subset (t : Text) : strip t ⊆ t := by
  obtain ⟨front, back, ht, -⟩ := exists_strip_append t
  intro c hc
  rw [ht]
  exact List.mem_append_left _ (List.mem_append_right _ hc)

/-- An excerpt that is not empty is shown on a line of its own, without the blanks around it. -/
theorem formatSnippet_eq {snippet : Option Text} (h : ∀ s ∈ snippet, s ≠ []) :
    formatSnippet snippet = (snippet.map strip).elim [] fun s => "    ".toList ++ s ++ "\n".toList := by
  cases snippet with
  | none => rfl
  | some s =>
    cases s with
    | nil => exact absurd rfl (h [] rfl)
    | cons c s => rfl

theorem formatSnippet_append_inj {s s' : Option Text} (hs : ∀ x ∈ s, x ≠ [] ∧ '\n' ∉ x)
    (hs' : ∀ x ∈ s', x ≠ [] ∧ '\n' ∉ x) {u v : Text}
    (h : formatSnippet s ++ '\n' :: u = formatSnippet s' ++ '\n' :: v) :
    s.map strip = s'.map strip ∧ u = v := by
  rw [formatSnippet_eq fun x hx => (hs x hx).1, formatSnippet_eq fun x hx => (hs' x hx).1] at h
  cases s with
  | none =>
    cases s' with
    | none => exact ⟨rfl, (List.cons.inj h).2⟩
    | some x' => simp at h
  | some x =>
    cases s' with
    | none => simp at h
    | some x' =>
      have hx : '\n' ∉ strip x := fun hc => (hs x rfl).2 (strip_subset x hc)
      have hx' : '\n' ∉ strip x' := fun hc => (hs' x' rfl).2 (strip_subset x' hc)
      have htails : "    ".toList ++ (strip x ++ '\n' :: '\n' :: u) =
          "    ".toList ++ (strip x' ++ '\n' :: '\n' :: v) := by
        simpa using h
      obtain ⟨hstrip, hrest⟩ := append_sep_inj hx hx' (List.append_cancel_left htails)
      exact ⟨by simp [hstrip], (List.cons.inj hrest).2⟩

/-! ## Paragraphs -/

theorem formatFinding_append_inj {f g : Finding} (hf : f.Legible) (hg : g.Legible) {i : Nat}
    {u v : Text} (h : formatFinding i f ++ u = formatFinding i g ++ v) : f.Alike g ∧ u = v := by
  rw [formatFinding_eq, formatFinding_eq] at h
  simp only [List.append_assoc, List.cons_append, List.nil_append] at h
  obtain ⟨hhead, htail⟩ := append_sep_inj (feed_notMem_headline hf i) (feed_notMem_headline hg i) h
  obtain ⟨hrule, hmessage, hline⟩ := headline_inj hf hg hhead
  obtain ⟨hsnippet, hrest⟩ := formatSnippet_append_inj hf.snippet hg.snippet htail
  refine ⟨⟨hrule, ?_, hmessage, hline, hsnippet⟩, hrest⟩
  -- the severity is not written, but it goes with the rule
  obtain ⟨r, hr, hseverity⟩ := hf.rule
  obtain ⟨r', hr', hseverity'⟩ := hg.rule
  have hsame : r = r' := Rule.name_injective (hr.symm.trans (hrule.trans hr'))
  rw [hseverity, hseverity', hsame]

theorem formatFinding_congr {f g : Finding} (hf : f.Legible) (hg : g.Legible) (h : f.Alike g) (i : Nat) :
    formatFinding i f = formatFinding i g := by
  rw [formatFinding_eq, formatFinding_eq, headline, headline, h.rule, h.message, h.line,
    formatSnippet_eq fun s hs => (hf.snippet s hs).1, formatSnippet_eq fun s hs => (hg.snippet s hs).1,
    h.snippet]

/-- The paragraphs of findings that are numbered from `i` on. -/
def paragraphs (i : Nat) (fs : List Finding) : Text :=
  (fs.zipIdx i).flatMap fun p => formatFinding p.2 p.1

theorem paragraphs_cons (i : Nat) (f : Finding) (fs : List Finding) :
    paragraphs i (f :: fs) = formatFinding i f ++ paragraphs (i + 1) fs := by
  rw [paragraphs, List.zipIdx_cons, List.flatMap_cons, ← paragraphs]

theorem paragraphs_eq_iff {fs gs : List Finding} (hfs : ∀ f ∈ fs, f.Legible)
    (hgs : ∀ g ∈ gs, g.Legible) (hlength : fs.length = gs.length) (i : Nat) :
    paragraphs i fs = paragraphs i gs ↔ List.Forall₂ Finding.Alike fs gs := by
  induction fs generalizing gs i with
  | nil =>
    obtain rfl : gs = [] := List.length_eq_zero_iff.mp hlength.symm
    exact iff_of_true rfl .nil
  | cons f fs ih =>
    cases gs with
    | nil => cases hlength
    | cons g gs =>
      have hf := hfs f List.mem_cons_self
      have hg := hgs g List.mem_cons_self
      have hrest := ih (fun x hx => hfs x (List.mem_cons_of_mem _ hx))
        (fun x hx => hgs x (List.mem_cons_of_mem _ hx)) (Nat.succ.inj hlength) (i + 1)
      rw [paragraphs_cons, paragraphs_cons, List.forall₂_cons]
      constructor
      · intro h
        obtain ⟨halike, htail⟩ := formatFinding_append_inj hf hg h
        exact ⟨halike, hrest.mp htail⟩
      · rintro ⟨halike, htail⟩
        rw [formatFinding_congr hf hg halike, hrest.mpr htail]

/-! ## Reports -/

theorem formatReport_of_ne_nil {fs : List Finding} (h : fs ≠ []) :
    formatReport fs = "Python Static Analysis Report\n\nTotal issues: ".toList ++
      (ofNat fs.length ++ '\n' :: '\n' :: paragraphs 1 fs) := by
  have hempty : fs.isEmpty = false := by simpa using h
  simp [formatReport, hempty, paragraphs]

theorem cleanReport_ne {fs : List Finding} (h : fs ≠ []) : cleanReport ≠ formatReport fs := by
  have hclean : cleanReport.head? = some 'N' := by decide +kernel
  have hreport : (formatReport fs).head? = some 'P' := by
    rw [formatReport_of_ne_nil h]
    simp
  intro he
  rw [he, hreport] at hclean
  exact absurd hclean (by decide)

theorem formatReport_eq_iff {fs gs : List Finding} (hfs : ∀ f ∈ fs, f.Legible)
    (hgs : ∀ g ∈ gs, g.Legible) :
    formatReport fs = formatReport gs ↔ List.Forall₂ Finding.Alike fs gs := by
  by_cases hf : fs = []
  · subst hf
    by_cases hg : gs = []
    · subst hg
      exact iff_of_true rfl .nil
    · refine iff_of_false (cleanReport_ne hg) fun h => hg ?_
      exact List.length_eq_zero_iff.mp h.length_eq.symm
  · by_cases hg : gs = []
    · subst hg
      refine iff_of_false (fun h => cleanReport_ne hf h.symm) fun h => hf ?_
      exact List.length_eq_zero_iff.mp h.length_eq
    · have hnat : ∀ n, '\n' ∉ ofNat n := notMem_ofNat (by decide)
      rw [formatReport_of_ne_nil hf, formatReport_of_ne_nil hg]
      constructor
      · intro h
        obtain ⟨htotal, hrest⟩ := append_sep_inj (hnat _) (hnat _) (List.append_cancel_left h)
        exact (paragraphs_eq_iff hfs hgs (ofNat_injective htotal) 1).mp (List.cons.inj hrest).2
      · intro h
        rw [(paragraphs_eq_iff hfs hgs h.length_eq 1).mpr h, h.length_eq]

/-- A score sees of the findings only their severities. -/
theorem healthScore_congr {fs gs : List Finding} (h : List.Forall₂ Finding.Alike fs gs) :
    healthScore fs = healthScore gs := by
  have hseverities : fs.map Finding.severity = gs.map Finding.severity := by
    induction h with
    | nil => rfl
    | cons hfg _ ih => rw [List.map_cons, List.map_cons, hfg.severity, ih]
  refine itemScore_congr ?_
  have hsome := congrArg (List.map some) hseverities
  rwa [List.map_map, List.map_map] at hsome ⊢

/-- **A report tells the analysis.** Two texts have the same report exactly when they have as many findings,
which are alike one by one: the same rule, severity, message and line, and the same excerpt but for the
blanks around it, or both none. Then they have the same score. -/
theorem formatReport_analyze_eq_iff (a b : Text) :
    (formatReport (analyze a) = formatReport (analyze b) ↔
      (analyze a).length = (analyze b).length ∧ List.Forall₂ Finding.Alike (analyze a) (analyze b)) ∧
    (formatReport (analyze a) = formatReport (analyze b) →
      healthScore (analyze a) = healthScore (analyze b)) := by
  have hiff := formatReport_eq_iff (fun f hf => legible_of_mem_analyze (t := a) hf)
    (fun g hg => legible_of_mem_analyze (t := b) hg)
  refine ⟨hiff.trans ⟨fun h => ⟨h.length_eq, h⟩, fun h => h.2⟩, fun h => ?_⟩
  exact healthScore_congr (hiff.mp h)

/-- Two texts that differ in the blanks at the end of a line. -/
theorem formatReport_trailing_blanks :
    analyze "  x = y \n".toList ≠ analyze "  x = y\t \n".toList ∧
      formatReport (analyze "  x = y \n".toList) = formatReport (analyze "  x = y\t \n".toList) ∧
      List.Forall₂ Finding.Alike (analyze "  x = y \n".toList) (analyze "  x = y\t \n".toList) ∧
      healthScore (analyze "  x = y \n".toList) = healthScore (analyze "  x = y\t \n".toList) := by
  have hreport : formatReport (analyze "  x = y \n".toList) =
      formatReport (analyze "  x = y\t \n".toList) := by decide +kernel
  obtain ⟨hiff, hscore⟩ := formatReport_analyze_eq_iff "  x = y \n".toList "  x = y\t \n".toList
  exact ⟨by decide +kernel, hreport, (hiff.mp hreport).2, hscore hreport⟩

end CodeSmell
