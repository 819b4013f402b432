import CodeSmell.Inspect
import CodeSmell.Proofs.Files.Places

/-!
# Inspections of directories

A walk goes by the names in the tree, however long the paths get. Where a path is too long to be followed, its file
cannot be loaded and is counted as skipped.

* `Inspector.place_directory` : a directory is inspected under its own path;
* `Inspector.Tallied` : an inspection counts each file once, as scanned or as skipped; `Tallied.next` : one more
  file keeps the tally, and so `tallied_foldl` : do all files;
* `Inspector.Accounts` : besides, its reviews are in the order of the files;
* `inspection_walk` : the files of a walk, and the inspection of them.
-/

namespace CodeSmell

/-- A directory is inspected under its own path, if that is short enough. -/
theorem Inspector.place_directory {t : FileTree} (place : List Text) {entries : List (Text × Node)}
    (hfind : t.root.find? place = some (.directory entries))
    (hnames : ∀ name ∈ place, isEntryName name = true) (hshort : FileTree.IsShort place)
    (hnull : hasNull (PathName.absolute place).text = false) :
    Inspector.place t (PathName.absolute place).text = .ok place := by
  rw [Inspector.place, hnull, PathName.parse_text_absolute hnames]
  simp only [Bool.false_eq_true, if_false, FileTree.resolve_directory hfind hnames,
    FileTree.stat_directory hfind hnames, if_pos hshort]

namespace Inspector

variable (i : Inspector) (t : FileTree)

theorem path_of_inspectFile {path : Text} {r : FileReview} (h : i.inspectFile t path = some r) :
    r.path = (PathName.parse path).text := by
  obtain ⟨content, -, rfl⟩ := Option.map_eq_some_iff.mp h
  rfl

/-- An inspection that looks at the files `paths` has a review for each that can be had, in their order.
The others are skipped. -/
structure Tallied (paths : List Text) (r : Inspection) : Prop where
  reviews : r.files = paths.filterMap (i.inspectFile t)
  scanned : r.scanned = r.files.length
  total : r.scanned + r.skipped = paths.length

/-- The reviews bear the paths of their files. -/
structure Accounts (paths : List Text) (r : Inspection) : Prop extends i.Tallied t paths r where
  sublist : (r.files.map (·.path)).Sublist paths

variable {i t} in
theorem Tallied.next {paths : List Text} {r : Inspection} (h : i.Tallied t paths r) (path : Text) :
    i.Tallied t (paths ++ [path]) (i.inspectNext t r path) := by
  obtain ⟨hreviews, hscanned, htotal⟩ := h
  unfold inspectNext
  cases hreview : i.inspectFile t path with
  | none =>
    refine ⟨?_, hscanned, ?_⟩
    · simp [hreviews, hreview]
    · simp only [List.length_append, List.length_singleton]
      omega
  | some review =>
    refine ⟨?_, ?_, ?_⟩
    · simp [hreviews, hreview]
    · simp [hscanned]
    · simp only [List.length_append, List.length_singleton]
      omega

/-- What one file keeps, all files keep. -/
theorem tallied_foldl (root : Text) (paths : List Text) :
    i.Tallied t paths (paths.foldl (i.inspectNext t) { root }) := by
  induction paths using List.reverseRecOn with
  | nil => exact ⟨rfl, rfl, rfl⟩
  | append_singleton paths path ih =>
    rw [List.foldl_append]
    exact ih.next path

theorem tallied_inspectPlace (place : List Text) (elapsed : Float) :
    i.Tallied t (i.targets t place) (i.inspectPlace t place elapsed) := by
  obtain ⟨hreviews, hscanned, htotal⟩ := i.tallied_foldl t (PathName.absolute place).text (i.targets t place)
  exact ⟨hreviews, hscanned, htotal⟩

/-- Where paths are written as they are read, reviews bear the paths of their files. -/
theorem map_path_filterMap {paths : List Text}
    (h : ∀ path ∈ paths, (PathName.parse path).text = path) :
    (paths.filterMap (i.inspectFile t)).map (·.path) =
      paths.filter fun path => (i.inspectFile t path).isSome := by
  induction paths with
  | nil => rfl
  | cons path paths ih =>
    obtain ⟨hpath, hpaths⟩ := List.forall_mem_cons.mp h
    cases hr : i.inspectFile t path with
    | none => simp [hr, ih hpaths]
    | some r => simp [hr, ih hpaths, path_of_inspectFile i t hr, hpath]

theorem accounts_inspectPlace {place : List Text}
    (h : ∀ path ∈ i.targets t place, (PathName.parse path).text = path) (elapsed : Float) :
    i.Accounts t (i.targets t place) (i.inspectPlace t place elapsed) where
  toTallied := i.tallied_inspectPlace t place elapsed
  sublist := by
    rw [(i.tallied_inspectPlace t place elapsed).reviews, map_path_filterMap i t h]
    exact List.filter_sublist

end Inspector

/-- **Walks and the inspections of them.** In a proper tree there is one list of the files below a place,
in the order of a walk, and the walk of a selection is that list without the files that the selection does
not take. An inspection of a directory counts each file of the walk once, and its reviews are in the order
of the walk. -/
theorem inspection_walk (t : FileTree) (h : t.root.isProper = true) (place : List Text) :
    (∀ l, t.IsTraversal place l ↔ l = t.everyFile place) ∧
    (∀ s : Selection,
      t.walk s place = (t.everyFile place).filter (fun p => s.Admits (p.drop place.length)) ∧
        (t.walk s place).Nodup) ∧
    ∀ (i : Inspector) (path : Text) (elapsed : Float) (entries : List (Text × Node)),
      Inspector.place t path = .ok place → t.root.find? place = some (.directory entries) →
      ∃ r, i.inspectPath t path elapsed = .ok r ∧
        i.Accounts t ((t.walk i.selection place).map fun p => (PathName.absolute p).text) r := by
  have htraversal := FileTree.isTraversal_everyFile h place
  refine ⟨fun l => FileTree.isTraversal_iff h, fun s => ?_, fun i path elapsed entries hplace hfind => ?_⟩
  · rw [FileTree.walk_eq_filter_everyFile]
    exact ⟨rfl, htraversal.nodup.filter _⟩
  · refine ⟨i.inspectPlace t place elapsed, by rw [Inspector.inspectPath, hplace]; rfl, ?_⟩
    have hnames := (Node.isProper_of_find? h hfind).2
    have htargets : i.targets t place =
        (t.walk i.selection place).map fun p => (PathName.absolute p).text := by
      simp only [Inspector.targets, FileTree.isFile_eq_false_of_directory hfind hnames]
      rfl
    rw [← htargets]
    refine i.accounts_inspectPlace t ?_ elapsed
    rw [htargets]
    intro path hpath
    obtain ⟨p, hp, rfl⟩ := List.mem_map.mp hpath
    rw [FileTree.walk_eq_filter_everyFile] at hp
    obtain ⟨rel, found, -, -, hfound, -⟩ := (htraversal.mem_iff p).mp (List.mem_of_mem_filter hp)
    rw [PathName.parse_text_absolute (Node.isProper_of_find? h hfound).2]

/-- A directory with built files below it, a link to itself, and a link that leads nowhere. -/
def sampleTree : FileTree where
  root := .directory [("p".toList, .directory [
    ("sub".toList, .directory [
      ("d.txt".toList, .file []), ("c.py".toList, .file []), ("skip.py".toList, .file [])]),
    ("build".toList, .directory [("x.py".toList, .file [])]),
    ("b.py".toList, .file []),
    ("loop.py".toList, .link "/p".toList),
    ("a.py".toList, .link "/nowhere".toList)])]

/-- Of six files the selection takes three, one of them a link that leads nowhere. -/
theorem inspection_walk_sampleTree :
    let place := ["p".toList]
    let i : Inspector := { settings := {}, exclude := ["skip.py".toList] }
    let walked := [["p".toList, "a.py".toList], ["p".toList, "b.py".toList],
      ["p".toList, "sub".toList, "c.py".toList]]
    sampleTree.root.isProper = true ∧ Inspector.place sampleTree "/p".toList = .ok place ∧
      sampleTree.walk i.selection place = walked ∧
      ∃ r, i.inspectPath sampleTree "/p".toList = .ok r ∧ r.scanned + r.skipped = walked.length ∧
        (r.files.map (·.path)).Sublist (walked.map fun p => (PathName.absolute p).text) := by
  intro place i walked
  have hproper : sampleTree.root.isProper = true := by decide +kernel
  have hplace : Inspector.place sampleTree "/p".toList = .ok place :=
    Inspector.place_directory ["p".toList] rfl (by decide) (by decide) (by decide)
  have hbroken : sampleTree.leadsToDirectory ["p".toList, "a.py".toList] = false := by
    have hstat : sampleTree.stat (PathName.absolute ["p".toList, "a.py".toList]).text = .error .notFound :=
      FileTree.stat_brokenLink ["p".toList] "a.py".toList "nowhere".toList rfl rfl (by decide) (by decide)
        (by decide) rfl
    rw [FileTree.leadsToDirectory, hstat]
  have hloop : sampleTree.leadsToDirectory ["p".toList, "loop.py".toList] = true := by
    have hfollow : sampleTree.follow (PathName.absolute ["p".toList, "loop.py".toList]).text = .ok ["p".toList] := by
      refine (FileTree.follow_link ["p".toList] "loop.py".toList "/p".toList rfl rfl (by decide) (by decide)).trans ?_
      show sampleTree.followFrom 39 [] ([[]] ++ (["p".toList] ++ [])) = _
      rw [FileTree.followFrom_append_void (by decide) (by decide),
        FileTree.followFrom_directory _ _ _ rfl (by decide), if_pos (by decide), FileTree.followFrom]
      rfl
    rw [FileTree.leadsToDirectory, FileTree.stat, hfollow]
    rfl
  have heveryFile : sampleTree.everyFile place =
      [["p".toList, "a.py".toList], ["p".toList, "b.py".toList],
        ["p".toList, "build".toList, "x.py".toList], ["p".toList, "sub".toList, "c.py".toList],
        ["p".toList, "sub".toList, "d.txt".toList], ["p".toList, "sub".toList, "skip.py".toList]] := by
    show sampleTree.filesBelow _ _ ["p".toList] (.directory _) = _
    simp only [FileTree.filesBelow, FileTree.listEntries, List.cons_append, List.nil_append, hbroken, hloop]
    simp +decide [arrange, List.mergeSort, List.MergeSort.Internal.splitInTwo, nameLe]
  obtain ⟨-, hfilter, haccounts⟩ := inspection_walk sampleTree hproper place
  have hwalk : sampleTree.walk i.selection place = walked := by
    rw [(hfilter i.selection).1, heveryFile]
    decide +kernel
  obtain ⟨r, hr, haccounts⟩ := haccounts i _ 0.0 _ hplace rfl
  rw [hwalk] at haccounts
  refine ⟨hproper, hplace, hwalk, r, hr, ?_, haccounts.sublist⟩
  rw [haccounts.total, List.length_map]

end CodeSmell
