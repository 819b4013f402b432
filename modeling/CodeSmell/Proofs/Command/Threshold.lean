import CodeSmell.Proofs.Command.Check
import CodeSmell.Proofs.Inspection
import Mathlib.Algebra.GroupWithZero.Nat

/-!
# The threshold of a check

* `Reaches s o i inspections` : a check with the options `o` gets as far as its output, with these
  inspections; `exists_reaches_iff` : it does unless it breaks off;
* `Scored` : the texts that a check scores; `mem_inspectAll_iff` : they are those of the reviews;
* `Gated` : what a threshold makes of inspections;
* `check_threshold` : a check fails just when a review scores below its threshold, and otherwise does not
  depend on it.
-/

namespace CodeSmell

/-- The check with these options gets as far as its output. The threshold has no part in it. -/
structure Reaches (s : Surroundings) (o : CheckOptions) (i : Inspector) (inspections : List Inspection) :
    Prop where
  settings : Settings.load s.environment = .ok i.settings
  exclude : i.exclude = o.exclude
  inspections : inspectAll i s.files s.elapsed s.input o.paths = .ok inspections

theorem Reaches.runCheck_eq {s : Surroundings} {o : CheckOptions} {i : Inspector}
    {inspections : List Inspection} (h : Reaches s o i inspections) (verbose : Bool) (n : ℕ) :
    runCheck s verbose { o with failUnder := n } =
      checkOutcome s.yaml { o with failUnder := n }
        (noticeLines s.clock verbose (allNotices i s.files s.input o.paths)) inspections := by
  obtain ⟨settings, exclude⟩ := i
  obtain ⟨hsettings, hexclude, hinspections⟩ := h
  cases hexclude
  simp only [runCheck, hsettings, hinspections]

/-- Just these checks do not break off. -/
theorem exists_reaches_iff {s : Surroundings} {o : CheckOptions} (verbose : Bool) :
    (∃ i inspections, Reaches s o i inspections) ↔ (runCheck s verbose o).failure = none := by
  constructor
  · rintro ⟨i, inspections, h⟩
    rw [show o = { o with failUnder := o.failUnder } from rfl, h.runCheck_eq]
    rfl
  · intro h
    simp only [runCheck] at h
    split at h
    · cases h
    · rename_i settings hsettings
      split at h
      · cases h
      · rename_i inspections hinspections
        exact ⟨{ settings, exclude := o.exclude }, inspections, hsettings, rfl, hinspections⟩

/-! ## What is scored -/

/-- A check of the paths scores the text under the label: the text of the standard input, which is empty
when it is asked for again, or that of a file at or below a path. A file that cannot be loaded has none. -/
inductive Scored (i : Inspector) (files : FileTree) (input : Bytes) (paths : List Text) :
    (label t : Text) → Prop
  | input {t : Text} (hpath : dash ∈ paths) (ht : readInput input = .ok t) :
    Scored i files input paths inputLabel t
  | again (hpath : 2 ≤ paths.count dash) : Scored i files input paths inputLabel []
  | file {path target t : Text} {place : List Text} (hpath : path ∈ paths) (hdash : path ≠ dash)
    (hplace : Inspector.place files path = .ok place) (htarget : target ∈ i.targets files place)
    (ht : i.load files (PathName.parse target).text = .ok t) :
    Scored i files input paths (PathName.parse target).text t

section
variable {i : Inspector} {files : FileTree} {elapsed : ℕ → Float} {input : Bytes} {paths : List Text}
  {label t : Text}

theorem not_scored_nil : ¬Scored i files input [] label t := by
  rintro (⟨hpath, -⟩ | hpath | ⟨hpath, -, -, -, -⟩)
  · cases hpath
  · cases hpath
  · cases hpath

/-- The first dash takes all of the standard input. -/
theorem scored_dash_cons_iff :
    Scored i files input (dash :: paths) label t ↔
      (label = inputLabel ∧ readInput input = .ok t) ∨ Scored i files [] paths label t := by
  constructor
  · rintro (⟨-, ht⟩ | hpath | ⟨hpath, hdash, hplace, htarget, ht⟩)
    · exact .inl ⟨rfl, ht⟩
    · rw [List.count_cons_self] at hpath
      exact .inr (.input (List.count_pos_iff.mp (by omega)) rfl)
    · exact .inr (.file (List.mem_of_ne_of_mem hdash hpath) hdash hplace htarget ht)
  · rintro (⟨rfl, ht⟩ | ⟨hpath, ht⟩ | hpath | ⟨hpath, hdash, hplace, htarget, ht⟩)
    · exact .input List.mem_cons_self ht
    · cases ht
      refine .again ?_
      have hcount := List.count_pos_iff.mpr hpath
      rw [List.count_cons_self]
      omega
    · refine .again ?_
      rw [List.count_cons_self]
      omega
    · exact .file (List.mem_cons_of_mem _ hpath) hdash hplace htarget ht

theorem scored_cons_iff {path : Text} (hdash : path ≠ dash) {place : List Text}
    (hplace : Inspector.place files path = .ok place) :
    Scored i files input (path :: paths) label t ↔
      (∃ target ∈ i.targets files place, label = (PathName.parse target).text ∧
        i.load files (PathName.parse target).text = .ok t) ∨ Scored i files input paths label t := by
  constructor
  · rintro (⟨hpath, ht⟩ | hpath | ⟨hpath, hdash', hplace', htarget, ht⟩)
    · exact .inr (.input (List.mem_of_ne_of_mem hdash.symm hpath) ht)
    · rw [List.count_cons_of_ne hdash] at hpath
      exact .inr (.again hpath)
    · rcases List.mem_cons.mp hpath with rfl | hpath
      · cases hplace.symm.trans hplace'
        exact .inl ⟨_, htarget, rfl, ht⟩
      · exact .inr (.file hpath hdash' hplace' htarget ht)
  · rintro (⟨target, htarget, rfl, ht⟩ | ⟨hpath, ht⟩ | hpath | ⟨hpath, hdash', hplace', htarget, ht⟩)
    · exact .file List.mem_cons_self hdash hplace htarget ht
    · exact .input (List.mem_cons_of_mem _ hpath) ht
    · refine .again ?_
      rw [List.count_cons_of_ne hdash]
      exact hpath
    · exact .file (List.mem_cons_of_mem _ hpath) hdash' hplace' htarget ht

theorem inspectFile_eq_some_iff {path : Text} {f : FileReview} :
    i.inspectFile files path = some f ↔
      ∃ t, i.load files (PathName.parse path).text = .ok t ∧
        f = reviewText (PathName.parse path).text t := by
  rw [Inspector.inspectFile]
  cases i.load files (PathName.parse path).text with
  | error cause => simp [Except.toOption]
  | ok t => simp [Except.toOption, eq_comm]

theorem mem_inspectInput_iff {f : FileReview} :
    f ∈ (inspectInput t).files ↔ f = reviewText inputLabel t :=
  List.mem_singleton

/-- The reviews of a check are those of the texts that it scores. -/
theorem mem_inspectAll_iff {inspections : List Inspection}
    (h : inspectAll i files elapsed input paths = .ok inspections) (f : FileReview) :
    (∃ r ∈ inspections, f ∈ r.files) ↔
      ∃ label t, Scored i files input paths label t ∧ f = reviewText label t := by
  induction paths generalizing elapsed input inspections with
  | nil =>
    cases h
    simp [not_scored_nil]
  | cons path paths ih =>
    rw [inspectAll] at h
    split_ifs at h with hdash
    · subst hdash
      obtain ⟨t, ht, h⟩ := bind_eq_ok_iff.mp h
      obtain ⟨rest, hrest, h⟩ := bind_eq_ok_iff.mp h
      cases h
      simp only [List.exists_mem_cons_iff, ih hrest, scored_dash_cons_iff, mem_inspectInput_iff, ht]
      constructor
      · rintro (rfl | ⟨label, t', hscored, rfl⟩)
        · exact ⟨_, _, .inl ⟨rfl, rfl⟩, rfl⟩
        · exact ⟨_, _, .inr hscored, rfl⟩
      · rintro ⟨label, t', ⟨rfl, ⟨⟩⟩ | hscored, rfl⟩
        · exact .inl rfl
        · exact .inr ⟨_, _, hscored, rfl⟩
    · obtain ⟨r, hr, h⟩ := bind_eq_ok_iff.mp h
      obtain ⟨rest, hrest, h⟩ := bind_eq_ok_iff.mp h
      cases h
      obtain ⟨place, hplace, rfl⟩ := map_eq_ok_iff.mp (mapError_eq_ok_iff.mp hr)
      simp only [List.exists_mem_cons_iff, ih hrest, scored_cons_iff hdash hplace,
        (i.tallied_inspectPlace files place (elapsed 0)).reviews, List.mem_filterMap, inspectFile_eq_some_iff]
      constructor
      · rintro (⟨target, htarget, t, ht, rfl⟩ | ⟨label, t, hscored, rfl⟩)
        · exact ⟨_, _, .inl ⟨target, htarget, rfl, ht⟩, rfl⟩
        · exact ⟨_, _, .inr hscored, rfl⟩
      · rintro ⟨label, t, ⟨target, htarget, rfl, ht⟩ | hscored, rfl⟩
        · exact .inl ⟨target, htarget, t, ht, rfl⟩
        · exact .inr ⟨_, _, hscored, rfl⟩

end

/-! ## The threshold -/

def lowCount (n : ℕ) (inspections : List Inspection) : ℕ :=
  (inspections.map fun r => r.files.countP fun f => f.score < (n : Int)).sum

/-- What a check with the threshold `n` leaves behind, of which the output, the data in it and the notices do not
depend on the threshold. -/
structure Gated (i : Inspector) (s : Surroundings) (paths : List Text) (inspections : List Inspection)
    (output : Text) (document : Option Json) (notices : Text) (n : ℕ) (r : Outcome) : Prop where
  failure : r.failure = none
  output : r.output = output
  document : r.document = document
  exitCode : r.exitCode = 0 ∨ r.exitCode = 1
  fails_iff : r.exitCode = 1 ↔ ∃ inspection ∈ inspections, ∃ f ∈ inspection.files, f.score < n
  /-- What is skipped has no text, and so no part in this. -/
  fails_iff_scored : r.exitCode = 1 ↔
    ∃ label t, Scored i s.files s.input paths label t ∧ healthScore (analyze t) < n
  messages_of_pass : r.exitCode = 0 → r.messages = notices
  messages_of_fail : r.exitCode = 1 → r.messages = notices ++
    '\n' :: Text.ofNat (lowCount n inspections) ++ " file(s) scored below ".toList ++ Text.ofNat n ++ ['\n']

theorem mem_failing_iff {n : ℕ} {inspections : List Inspection} {f : FileReview} :
    f ∈ failing n inspections ↔ (∃ r ∈ inspections, f ∈ r.files) ∧ f.score < n := by
  simp [failing]

theorem length_failing (n : ℕ) (inspections : List Inspection) :
    (failing n inspections).length = lowCount n inspections := by
  rw [failing, ← List.countP_eq_length_filter, List.countP_flatMap]
  rfl

section
variable (yaml : Json → Text) (o : CheckOptions) (notices : Text) (inspections : List Inspection)

theorem exitCode_checkOutcome :
    (checkOutcome yaml o notices inspections).exitCode =
      if failing o.failUnder inspections = [] then 0 else 1 := by
  simp only [checkOutcome, List.isEmpty_iff]

theorem exitCode_checkOutcome_eq_one_iff :
    (checkOutcome yaml o notices inspections).exitCode = 1 ↔
      ∃ f, (∃ r ∈ inspections, f ∈ r.files) ∧ f.score < o.failUnder := by
  simp only [exitCode_checkOutcome, ← mem_failing_iff]
  split_ifs with hnil
  · simp [hnil]
  · exact iff_of_true rfl (List.exists_mem_of_ne_nil _ hnil)

theorem messages_checkOutcome :
    (checkOutcome yaml o notices inspections).messages =
      notices ++ failingText o.failUnder (failing o.failUnder inspections) := rfl

end

theorem Reaches.gated {s : Surroundings} {o : CheckOptions} {i : Inspector}
    {inspections : List Inspection} (h : Reaches s o i inspections) (notices : Text) (n : ℕ) :
    Gated i s o.paths inspections (showAll s.yaml o.format inspections) (documentOf o.format inspections)
      notices n (checkOutcome s.yaml { o with failUnder := n } notices inspections) := by
  have hfails := exitCode_checkOutcome_eq_one_iff s.yaml { o with failUnder := n } notices inspections
  have hcode := exitCode_checkOutcome s.yaml { o with failUnder := n } notices inspections
  have hmessages := messages_checkOutcome s.yaml { o with failUnder := n } notices inspections
  refine {
    failure := rfl
    output := rfl
    document := rfl
    exitCode := ?_
    fails_iff := hfails.trans ?_
    fails_iff_scored := hfails.trans ?_
    messages_of_pass := ?_
    messages_of_fail := ?_ }
  · rw [hcode]
    split_ifs
    · exact .inl rfl
    · exact .inr rfl
  · constructor
    · rintro ⟨f, ⟨r, hr, hf⟩, hlow⟩
      exact ⟨r, hr, f, hf, hlow⟩
    · rintro ⟨r, hr, f, hf, hlow⟩
      exact ⟨f, ⟨r, hr, hf⟩, hlow⟩
  · simp only [mem_inspectAll_iff h.inspections]
    constructor
    · rintro ⟨_, ⟨label, t, hscored, rfl⟩, hlow⟩
      exact ⟨label, t, hscored, Int.ofNat_lt.mp hlow⟩
    · rintro ⟨label, t, hscored, hlow⟩
      exact ⟨_, ⟨label, t, hscored, rfl⟩, Int.ofNat_lt.mpr hlow⟩
  · intro hpass
    rw [hcode] at hpass
    split_ifs at hpass with hnil
    rw [hmessages, hnil]
    exact List.append_nil _
  · intro hfail
    rw [hcode] at hfail
    split_ifs at hfail with hnil
    rw [hmessages, failingText, if_neg (by simpa using hnil), length_failing]
    simp

/-- **The threshold of a check.** A check that does not break off gets as far as its output. What it prints there on
the standard output, in each format and whatever times it shows, does not depend on its threshold. It fails just when
a review of one of its inspections scores below the threshold, and then says how many do. So it fails at every higher
threshold too, and never at zero. Every threshold up to 100 can be asked for, when there are paths and all of them
are there. -/
theorem check_threshold (s : Surroundings) (verbose : Bool) (o : CheckOptions) :
    ((∃ i inspections, Reaches s o i inspections) ↔ (runCheck s verbose o).failure = none) ∧
    ∀ i inspections, Reaches s o i inspections →
      (∃ output document notices, ∀ n args, AsksCheck s.files args verbose { o with failUnder := n } →
        n ≤ 100 ∧ Gated i s o.paths inspections output document notices n (run s args)) ∧
      (∀ n n' args args', AsksCheck s.files args verbose { o with failUnder := n } →
        AsksCheck s.files args' verbose { o with failUnder := n' } → n ≤ n' →
        (run s args).exitCode = 1 → (run s args').exitCode = 1) ∧
      (∀ args, AsksCheck s.files args verbose { o with failUnder := 0 } → (run s args).exitCode = 0) ∧
      (o.paths ≠ [] → (∀ p ∈ o.paths, p = dash ∨ s.files.hasPath p = true) → ∀ n ≤ 100,
        ∃ args, AsksCheck s.files args verbose { o with failUnder := n }) := by
  refine ⟨exists_reaches_iff verbose, fun i inspections h => ?_⟩
  have hgated (n : ℕ) (args : List Text) (hargs : AsksCheck s.files args verbose { o with failUnder := n }) :
      Gated i s o.paths inspections (showAll s.yaml o.format inspections) (documentOf o.format inspections)
        (noticeLines s.clock verbose (allNotices i s.files s.input o.paths)) n (run s args) := by
    rw [run_of_asksCheck hargs, h.runCheck_eq]
    exact h.gated _ n
  refine ⟨⟨_, _, _, fun n args hargs => ⟨failUnder_le_of_asksCheck hargs, hgated n args hargs⟩⟩, ?_, ?_, ?_⟩
  · intro n n' args args' hargs hargs' hle hfail
    obtain ⟨label, t, hscored, hlow⟩ := (hgated n args hargs).fails_iff_scored.mp hfail
    exact (hgated n' args' hargs').fails_iff_scored.mpr ⟨label, t, hscored, Nat.lt_of_lt_of_le hlow hle⟩
  · intro args hargs
    refine (hgated 0 args hargs).exitCode.resolve_right fun hfail => ?_
    obtain ⟨label, t, -, hlow⟩ := (hgated 0 args hargs).fails_iff_scored.mp hfail
    exact Nat.not_lt_zero _ hlow
  · intro hne hthere n hn
    exact ⟨_, asksCheck_words verbose (o := { o with failUnder := n }) hn hne hthere⟩

/-- A directory with a link that leads nowhere, and a text on the standard input. -/
def besideBrokenLink : Surroundings where
  files := { root := .directory [("p".toList, .directory [("a.py".toList, .link "/nowhere".toList)])] }
  input := Utf8.encode "x = 5\n".toList
  elapsed := fun _ => 0.25

/-- The text scores 95, and the link is skipped. -/
theorem check_threshold_besideBrokenLink :
    let o : CheckOptions := { paths := [dash, "/p".toList] }
    let inspections := [inspectInput "x = 5\n".toList, { root := "/p".toList, skipped := 1, duration := 0.25 }]
    Reaches besideBrokenLink o { settings := {} } inspections ∧
      (∃ args, AsksCheck besideBrokenLink.files args false { o with failUnder := 95 } ∧
        (run besideBrokenLink args).exitCode = 0) ∧
      ∃ args, AsksCheck besideBrokenLink.files args false { o with failUnder := 96 } ∧
        (run besideBrokenLink args).exitCode = 1 := by
  intro o inspections
  have hinput : readInput besideBrokenLink.input = .ok "x = 5\n".toList := by decide +kernel
  have hpath : Inspector.inspectPath { settings := {} } besideBrokenLink.files "/p".toList 0.25 =
      .ok { root := "/p".toList, skipped := 1, duration := 0.25 } := by
    have hplace : Inspector.place besideBrokenLink.files "/p".toList = .ok ["p".toList] :=
      Inspector.place_directory ["p".toList] rfl (by decide) (by decide) (by decide)
    have hstat : besideBrokenLink.files.stat (PathName.absolute ["p".toList, "a.py".toList]).text =
        .error .notFound :=
      FileTree.stat_brokenLink ["p".toList] "a.py".toList "nowhere".toList rfl rfl (by decide) (by decide)
        (by decide) rfl
    have htargets : Inspector.targets { settings := {} } besideBrokenLink.files ["p".toList] =
        ["/p/a.py".toList] := by
      have hnoFile : besideBrokenLink.files.isFile (PathName.absolute ["p".toList]).text = false :=
        FileTree.isFile_eq_false_of_directory rfl (by decide)
      have hlink : besideBrokenLink.files.leadsToDirectory ["p".toList, "a.py".toList] = false := by
        rw [FileTree.leadsToDirectory, hstat]
      have htakes : (Inspector.selection { settings := {} }).takes "a.py".toList = true := by decide
      simp only [Inspector.targets, hnoFile]
      show (besideBrokenLink.files.filesBelow _ _ ["p".toList] (.directory _)).map _ = _
      simp only [FileTree.filesBelow, FileTree.listEntries, List.cons_append, List.nil_append, hlink, htakes, arrange,
        List.mergeSort_singleton]
      rfl
    have hfile : Inspector.inspectFile { settings := {} } besideBrokenLink.files "/p/a.py".toList =
        none := by
      have hparse : (PathName.parse "/p/a.py".toList).text = "/p/a.py".toList := by decide
      have hread : besideBrokenLink.files.read "/p/a.py".toList = .error .notFound := by
        show besideBrokenLink.files.read (PathName.absolute ["p".toList, "a.py".toList]).text = _
        rw [FileTree.read, hstat]
        rfl
      simp only [Inspector.inspectFile, hparse, Inspector.load, hread]
      rfl
    rw [Inspector.inspectPath, hplace]
    simp only [Except.map, Inspector.inspectPlace, htargets, List.foldl_cons, List.foldl_nil,
      Inspector.inspectNext, hfile]
    rfl
  have hscore : healthScore (analyze "x = 5\n".toList) = 95 := by decide +kernel
  have hreaches : Reaches besideBrokenLink o { settings := {} } inspections := by
    refine ⟨rfl, rfl, ?_⟩
    show inspectAll _ _ (fun _ => 0.25) _ [dash, "/p".toList] = _
    rw [inspectAll, if_pos rfl, hinput, inspectAll, if_neg (by decide), hpath]
    rfl
  obtain ⟨-, hlaw⟩ := check_threshold besideBrokenLink false o
  obtain ⟨⟨output, document, notices, hgated⟩, -, -, hasks⟩ := hlaw _ _ hreaches
  have hthere : ∀ p ∈ [dash, "/p".toList], p = dash ∨ besideBrokenLink.files.hasPath p = true := by
    have hp : besideBrokenLink.files.hasPath (PathName.absolute ["p".toList]).text = true := by
      rw [FileTree.hasPath, FileTree.stat_directory rfl (by decide), if_pos (by decide)]
      rfl
    rw [List.forall_mem_cons, List.forall_mem_singleton]
    exact ⟨.inl rfl, .inr hp⟩
  have hasks := hasks (List.cons_ne_nil _ _) hthere
  refine ⟨hreaches, ?_, ?_⟩
  · obtain ⟨args, hargs⟩ := hasks 95 (by decide)
    have hgate := (hgated 95 args hargs).2
    refine ⟨args, hargs, hgate.exitCode.resolve_right fun hfail => ?_⟩
    obtain ⟨r, hr, f, hf, hlow⟩ := hgate.fails_iff.mp hfail
    rcases List.mem_pair.mp hr with rfl | rfl
    · rw [mem_inspectInput_iff.mp hf, reviewText, hscore] at hlow
      exact absurd hlow (by decide)
    · cases hf
  · obtain ⟨args, hargs⟩ := hasks 96 (by decide)
    refine ⟨args, hargs, (hgated 96 args hargs).2.fails_iff_scored.mpr ⟨_, _, .input ?_ hinput, ?_⟩⟩
    · exact List.mem_cons_self
    · rw [hscore]
      decide

end CodeSmell
