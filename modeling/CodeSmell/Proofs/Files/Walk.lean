import CodeSmell.Files.Walk
import Mathlib.Data.List.Nodup
import Mathlib.Data.List.Perm.Basic

/-!
# Walks

* `Node.isProper` : a tree in which names are names, and no two entries of a directory have the same;
* `filesBelow_directory` : the files of a directory by name, then those below its subdirectories;
* `admitted`, `filesBelow_eq_filter` : not to enter a directory leaves out what is below it, and nothing
  else;
* `ComesBefore` : the order of a walk, on paths from the place where it starts;
* `IsTraversal t place l` : the list `l` holds the files below `place`, each once and in that order;
  `isTraversal_iff` : `everyFile` is the only one;
* `Selection.Admits` : the paths that a selection takes; `walk_eq_filter_everyFile`.
-/

namespace CodeSmell

/-! ## Proper trees -/

/-- A name that an entry of a directory may have. -/
def isEntryName (name : Text) : Bool :=
  !name.isEmpty && name != ['.'] && name != ['.', '.'] && !name.contains '/'

theorem isEntryName_iff {name : Text} :
    isEntryName name = true ↔ name ≠ [] ∧ name ≠ ['.'] ∧ name ≠ ['.', '.'] ∧ '/' ∉ name := by
  simp [isEntryName, and_assoc]

namespace Node

mutual

/-- Whether the entries of each directory have names, each its own. -/
def isProper : Node → Bool
  | .directory entries => areProper entries
  | _ => true

def areProper : List (Text × Node) → Bool
  | [] => true
  | (name, node) :: rest =>
    isEntryName name && !(rest.map (·.1)).contains name && isProper node && areProper rest

end

theorem areProper_iff {entries : List (Text × Node)} :
    areProper entries = true ↔ (entries.map (·.1)).Nodup ∧
      ∀ e ∈ entries, isEntryName e.1 = true ∧ isProper e.2 = true := by
  induction entries with
  | nil => simp [areProper]
  | cons e entries ih =>
    obtain ⟨name, node⟩ := e
    simp only [areProper, Bool.and_eq_true, ih, Bool.not_eq_true', List.contains_eq_mem,
      decide_eq_false_iff_not, List.map_cons, List.nodup_cons, List.forall_mem_cons]
    tauto

theorem isProper_directory {entries : List (Text × Node)} :
    isProper (.directory entries) = true ↔ (entries.map (·.1)).Nodup ∧
      ∀ e ∈ entries, isEntryName e.1 = true ∧ isProper e.2 = true := by
  rw [isProper, areProper_iff]

/-- Induction over a tree: a directory has what all its entries have. -/
@[elab_as_elim]
theorem tree_induction {motive : Node → Prop}
    (leaf : ∀ node, isDirectory node = false → motive node)
    (directory : ∀ entries, (∀ e ∈ entries, motive e.2) → motive (.directory entries)) :
    ∀ node, motive node
  | .directory entries => directory entries fun e _he => tree_induction leaf directory e.2
  | .file _ => leaf _ rfl
  | .link _ => leaf _ rfl
  | .nullDevice => leaf _ rfl
termination_by node => sizeOf node
decreasing_by
  have hlt := List.sizeOf_lt_of_mem _he
  obtain ⟨name, node⟩ := e
  simp only [Prod.mk.sizeOf_spec, Node.directory.sizeOf_spec] at hlt ⊢
  omega

/-- With names of their own, entries are what is found under their names. -/
theorem lookup_eq_some_iff_mem {entries : List (Text × Node)} (h : (entries.map (·.1)).Nodup)
    {name : Text} {node : Node} : entries.lookup name = some node ↔ (name, node) ∈ entries := by
  induction entries with
  | nil => simp
  | cons e entries ih =>
    obtain ⟨name', node'⟩ := e
    obtain ⟨hnew, hentries⟩ := List.nodup_cons.mp h
    rw [List.lookup_cons, List.mem_cons]
    by_cases hname : name = name'
    · subst hname
      have hmem : (name, node) ∉ entries := fun hmem => hnew (List.mem_map.mpr ⟨_, hmem, rfl⟩)
      simp [hmem, eq_comm]
    · rw [beq_eq_false_iff_ne.mpr hname]
      simp [hname, ih hentries]

theorem find?_append (node : Node) (p q : List Text) :
    node.find? (p ++ q) = (node.find? p).bind (·.find? q) := by
  induction p generalizing node with
  | nil => rfl
  | cons name p ih =>
    cases hentry : node.entry? name with
    | none => simp [find?, hentry]
    | some next => simpa [find?, hentry] using ih next

theorem find?_directory_cons {entries : List (Text × Node)} {name : Text} {next : Node} {p : List Text}
    (h : entries.lookup name = some next) : (directory entries).find? (name :: p) = next.find? p := by
  rw [find?, entry?, h, Option.bind_some]

/-- Only a directory has a directory below it. -/
theorem isDirectory_of_find? {node : Node} {p : List Text} {entries : List (Text × Node)}
    (h : node.find? p = some (.directory entries)) : node.isDirectory = true := by
  cases p with
  | nil =>
    cases h
    rfl
  | cons name p =>
    cases node with
    | directory _ => rfl
    | file _ | link _ | nullDevice => cases h

/-- What is found in a proper tree is one too, and the names on the way are names. -/
theorem isProper_of_find? {node found : Node} {p : List Text} (h : node.isProper = true)
    (hfind : node.find? p = some found) :
    found.isProper = true ∧ ∀ name ∈ p, isEntryName name = true := by
  induction p generalizing node with
  | nil =>
    cases hfind
    exact ⟨h, by simp⟩
  | cons name p ih =>
    obtain ⟨next, hentry, hnext⟩ := Option.bind_eq_some_iff.mp hfind
    cases node with
    | directory entries =>
      obtain ⟨hnames, hentries⟩ := isProper_directory.mp h
      have hmem := (lookup_eq_some_iff_mem hnames).mp hentry
      obtain ⟨hfound, hp⟩ := ih (hentries _ hmem).2 hnext
      exact ⟨hfound, List.forall_mem_cons.mpr ⟨(hentries _ hmem).1, hp⟩⟩
    | file _ | link _ | nullDevice => cases hentry

def byName (entries : List (Text × Node)) : List (Text × Node) :=
  entries.mergeSort fun a b => !decide (b.1 < a.1)

theorem mem_byName {entries : List (Text × Node)} {e : Text × Node} :
    e ∈ byName entries ↔ e ∈ entries :=
  (List.mergeSort_perm _ _).mem_iff

theorem pairwise_byName {entries : List (Text × Node)} (h : (entries.map (·.1)).Nodup) :
    (byName entries).Pairwise fun a b => a.1 < b.1 := by
  have hle : (byName entries).Pairwise fun a b => ¬b.1 < a.1 := by
    refine (List.pairwise_mergeSort ?_ ?_ entries).imp fun hab => by simpa using hab
    · intro a b c hab hbc
      simp only [Bool.not_eq_true', decide_eq_false_iff_not, List.not_lt] at hab hbc ⊢
      exact List.le_trans hab hbc
    · intro a b
      simp only [Bool.or_eq_true, Bool.not_eq_true', decide_eq_false_iff_not, List.not_lt]
      exact List.le_total a.1 b.1
  have hne : (byName entries).Pairwise fun a b => a.1 ≠ b.1 := by
    have hperm := (List.mergeSort_perm entries fun a b => !decide (b.1 < a.1)).map (·.1)
    exact List.pairwise_map.mp (hperm.nodup_iff.mpr h)
  refine hle.imp₂ (fun a b hab hne => ?_) hne
  by_contra hlt
  exact hne (List.le_antisymm (List.not_lt.mp hab) (List.not_lt.mp hlt))

end Node

/-! ## One directory -/

namespace FileTree

variable (t : FileTree)

/-- Whether the node at a place counts as a file of its directory. -/
def countsAsFile (place : List Text) : Node → Bool
  | .directory _ => false
  | .link _ => !t.leadsToDirectory place
  | .file _ | .nullDevice => true

def listed (enter take : Text → Bool) (place : List Text) (e : Text × Node) : Listed :=
  if t.countsAsFile (place ++ [e.1]) e.2 && take e.1 then .file
  else if e.2.isDirectory && enter e.1 then .below (t.filesBelow enter take (place ++ [e.1]) e.2)
  else .none

theorem listEntries_eq_map (enter take : Text → Bool) (place : List Text)
    (entries : List (Text × Node)) :
    t.listEntries enter take place entries = entries.map fun e => (e.1, t.listed enter take place e) := by
  induction entries with
  | nil => rw [listEntries, List.map_nil]
  | cons e entries ih =>
    obtain ⟨name, node⟩ := e
    cases node with
    | link target =>
      cases hlink : t.leadsToDirectory (place ++ [name]) <;>
        simp [listEntries, listed, countsAsFile, Node.isDirectory, hlink, ih]
    | file _ | directory _ | nullDevice =>
      simp [listEntries, listed, countsAsFile, Node.isDirectory, ih]

theorem filesBelow_leaf (enter take : Text → Bool) (place : List Text) {node : Node}
    (h : node.isDirectory = false) : t.filesBelow enter take place node = [] := by
  cases node with
  | directory entries => cases h
  | file _ | link _ | nullDevice => rw [filesBelow]; simp

/-- First the files of the directory that are taken, then what is below the directories entered. -/
theorem filesBelow_directory (enter take : Text → Bool) (place : List Text)
    (entries : List (Text × Node)) :
    t.filesBelow enter take place (.directory entries) =
      (((Node.byName entries).filter fun e => t.countsAsFile (place ++ [e.1]) e.2 && take e.1).map
        fun e => place ++ [e.1]) ++
      (Node.byName entries).flatMap
        fun e => if enter e.1 then t.filesBelow enter take (place ++ [e.1]) e.2 else [] := by
  have hsort : (entries.map fun e => (e.1, t.listed enter take place e)).mergeSort nameLe =
      (Node.byName entries).map fun e => (e.1, t.listed enter take place e) :=
    (List.map_mergeSort (by intro a _ b _; rfl)).symm
  rw [filesBelow, listEntries_eq_map, arrange, hsort]
  congr 1
  · induction Node.byName entries with
    | nil => rfl
    | cons e l ih =>
      rw [List.map_cons, List.filterMap_cons, ih, List.filter_cons]
      unfold listed
      split_ifs <;> rfl
  · induction Node.byName entries with
    | nil => rfl
    | cons e l ih =>
      rw [List.map_cons, List.flatMap_cons, ih, List.flatMap_cons]
      congr 1
      obtain ⟨name, node⟩ := e
      cases node with
      | directory below =>
        cases henter : enter name <;> simp [listed, countsAsFile, Node.isDirectory, henter]
      | file _ | link _ | nullDevice =>
        rw [t.filesBelow_leaf enter take _ rfl, ite_self, listed]
        split_ifs <;> rfl

/-! ## What a choice leaves out -/

/-- Whether a path is taken: all its directories are entered, and its last name is that of a file taken. -/
def admitted (enter take : Text → Bool) (p : List Text) : Bool :=
  p.dropLast.all enter && p.getLast?.any take

theorem admitted_cons (enter take : Text → Bool) (name : Text) {p : List Text} (h : p ≠ []) :
    admitted enter take (name :: p) = (enter name && admitted enter take p) := by
  obtain ⟨next, p, rfl⟩ := List.exists_cons_of_ne_nil h
  simp [admitted, Bool.and_assoc]

/-- A walk stays below the place where it starts. -/
theorem exists_of_mem_filesBelow {enter take : Text → Bool} {node : Node} {place p : List Text}
    (h : p ∈ t.filesBelow enter take place node) : ∃ rel, rel ≠ [] ∧ p = place ++ rel := by
  induction node using Node.tree_induction generalizing place with
  | leaf node hleaf =>
    rw [t.filesBelow_leaf enter take place hleaf] at h
    cases h
  | directory entries ih =>
    rw [filesBelow_directory, List.mem_append, List.mem_map, List.mem_flatMap] at h
    rcases h with ⟨e, -, rfl⟩ | ⟨e, he, h⟩
    · exact ⟨[e.1], by simp, rfl⟩
    · split_ifs at h
      · obtain ⟨rel, -, rfl⟩ := ih e (Node.mem_byName.mp he) h
        exact ⟨e.1 :: rel, by simp, by simp⟩
      · cases h

/-- The same, seen from the directory that the node is in. -/
theorem exists_drop_of_mem_filesBelow {enter take : Text → Bool} {node : Node} {name : Text}
    {place p : List Text} (h : p ∈ t.filesBelow enter take (place ++ [name]) node) :
    ∃ rel, rel ≠ [] ∧ p.drop (place ++ [name]).length = rel ∧ p.drop place.length = name :: rel := by
  obtain ⟨rel, hrel, rfl⟩ := exists_of_mem_filesBelow t h
  exact ⟨rel, hrel, List.drop_left, by simp⟩

/-- The files of a walk are those of the walk through everything whose paths are taken. -/
theorem filesBelow_eq_filter (enter take : Text → Bool) (place : List Text) (node : Node) :
    t.filesBelow enter take place node =
      (t.filesBelow (fun _ => true) (fun _ => true) place node).filter
        fun p => admitted enter take (p.drop place.length) := by
  induction node using Node.tree_induction generalizing place with
  | leaf node hleaf => simp [t.filesBelow_leaf _ _ _ hleaf]
  | directory entries ih =>
    rw [filesBelow_directory, filesBelow_directory, List.filter_append, List.filter_map,
      List.filter_filter, List.filter_flatMap]
    congr 1
    · congr 1
      refine List.filter_congr fun e _ => ?_
      simp [admitted, Bool.and_comm]
    · refine List.flatMap_congr fun e he => ?_
      rw [if_pos rfl]
      split_ifs with henter
      · rw [ih e (Node.mem_byName.mp he)]
        refine List.filter_congr fun p hp => ?_
        obtain ⟨rel, hrel, hdrop, hdrop'⟩ := exists_drop_of_mem_filesBelow t hp
        rw [hdrop, hdrop', admitted_cons _ _ _ hrel, henter, Bool.true_and]
      · -- all paths below a directory that is not entered have its name, and so none is taken
        symm
        rw [List.filter_eq_nil_iff]
        intro p hp
        obtain ⟨rel, hrel, -, hdrop⟩ := exists_drop_of_mem_filesBelow t hp
        simp [hdrop, admitted_cons _ _ _ hrel, henter]

/-! ## The order of a walk -/

/-- The order of paths in a walk: in a directory the files come by name, before all that is below its
subdirectories, and these come by name. -/
inductive ComesBefore : List Text → List Text → Prop
  | files {a b : Text} : a < b → ComesBefore [a] [b]
  | fileFirst (a b : Text) {q : List Text} : q ≠ [] → ComesBefore [a] (b :: q)
  | directories {a b : Text} {p q : List Text} : a < b → p ≠ [] → q ≠ [] → ComesBefore (a :: p) (b :: q)
  | within (a : Text) {p q : List Text} : ComesBefore p q → ComesBefore (a :: p) (a :: q)

theorem ComesBefore.asymm {p q : List Text} (h : ComesBefore p q) : ¬ComesBefore q p := by
  induction h with
  | files hlt =>
    intro h
    cases h with
    | files hgt => exact List.lt_asymm hlt hgt
    | fileFirst _ _ hq => exact hq rfl
    | directories _ hp => exact hp rfl
    | within _ h => cases h
  | fileFirst a b hq =>
    intro h
    cases h with
    | files _ => exact hq rfl
    | fileFirst _ _ hq => exact hq rfl
    | directories _ _ hp => exact hp rfl
    | within _ h => cases h
  | directories hlt hp hq =>
    intro h
    cases h with
    | files _ => exact hp rfl
    | fileFirst _ _ _ => exact hq rfl
    | directories hgt _ _ => exact List.lt_asymm hlt hgt
    | within _ _ => exact List.lt_irrefl _ hlt
  | within a hpq ih =>
    intro h
    cases h with
    | files hlt => exact List.lt_irrefl _ hlt
    | fileFirst _ _ _ => cases hpq
    | directories hlt _ _ => exact List.lt_irrefl _ hlt
    | within _ h => exact ih h

def WalksBefore (place p q : List Text) : Prop :=
  ComesBefore (p.drop place.length) (q.drop place.length)

theorem pairwise_filesBelow (enter take : Text → Bool) (place : List Text) {node : Node}
    (h : node.isProper = true) :
    (t.filesBelow enter take place node).Pairwise (WalksBefore place) := by
  induction node using Node.tree_induction generalizing place with
  | leaf node hleaf =>
    rw [t.filesBelow_leaf _ _ _ hleaf]
    exact .nil
  | directory entries ih =>
    obtain ⟨hnames, hentries⟩ := Node.isProper_directory.mp h
    have hsorted := Node.pairwise_byName hnames
    rw [filesBelow_directory, List.pairwise_append, List.pairwise_map, List.pairwise_flatMap]
    -- two files, two paths below one subdirectory, below two of them, a file and a path below one
    refine ⟨(hsorted.filter _).imp fun {a b} hab => ?_, ⟨fun e he => ?_, hsorted.imp ?_⟩, ?_⟩
    · unfold WalksBefore
      rw [List.drop_left, List.drop_left]
      exact .files hab
    · split_ifs
      · have hmem := Node.mem_byName.mp he
        refine (ih e hmem (place ++ [e.1]) (hentries e hmem).2).imp_of_mem fun {p q} hp hq hpq => ?_
        obtain ⟨p', -, hp, hp'⟩ := exists_drop_of_mem_filesBelow t hp
        obtain ⟨q', -, hq, hq'⟩ := exists_drop_of_mem_filesBelow t hq
        unfold WalksBefore at hpq ⊢
        rw [hp, hq] at hpq
        rw [hp', hq']
        exact .within e.1 hpq
      · exact .nil
    · intro a b hab p hp q hq
      split_ifs at hp hq
      · obtain ⟨p', hne, -, hp⟩ := exists_drop_of_mem_filesBelow t hp
        obtain ⟨q', hne', -, hq⟩ := exists_drop_of_mem_filesBelow t hq
        unfold WalksBefore
        rw [hp, hq]
        exact .directories hab hne hne'
      all_goals simp_all
    · intro p hp q hq
      obtain ⟨e, -, rfl⟩ := List.mem_map.mp hp
      obtain ⟨e', -, hq⟩ := List.mem_flatMap.mp hq
      split_ifs at hq
      · obtain ⟨q', hne, -, hq⟩ := exists_drop_of_mem_filesBelow t hq
        unfold WalksBefore
        rw [List.drop_left, hq]
        exact .fileFirst e.1 e'.1 hne
      · cases hq

/-- The walk through everything finds what counts as a file, wherever below the node it is. -/
theorem mem_filesBelow_iff {place p : List Text} {node : Node} (h : node.isProper = true) :
    p ∈ t.filesBelow (fun _ => true) (fun _ => true) place node ↔
      ∃ rel found, rel ≠ [] ∧ p = place ++ rel ∧ node.find? rel = some found ∧
        t.countsAsFile p found = true := by
  induction node using Node.tree_induction generalizing place with
  | leaf node hleaf =>
    rw [t.filesBelow_leaf _ _ _ hleaf]
    refine ⟨fun h => absurd h List.not_mem_nil, ?_⟩
    rintro ⟨rel, found, hrel, -, hfind, -⟩
    obtain ⟨name, rest, rfl⟩ := List.exists_cons_of_ne_nil hrel
    cases node with
    | directory _ => cases hleaf
    | file _ | link _ | nullDevice => cases hfind
  | directory entries ih =>
    obtain ⟨hnames, hentries⟩ := Node.isProper_directory.mp h
    have hlookup {name : Text} {node : Node} :
        entries.lookup name = some node ↔ (name, node) ∈ entries := Node.lookup_eq_some_iff_mem hnames
    rw [filesBelow_directory, List.mem_append, List.mem_map, List.mem_flatMap]
    constructor
    · rintro (⟨e, he, rfl⟩ | ⟨e, he, hp⟩)
      · obtain ⟨he, hfile⟩ := List.mem_filter.mp he
        have hfind := Node.find?_directory_cons (p := []) (hlookup.mpr (Node.mem_byName.mp he))
        exact ⟨[e.1], e.2, by simp, rfl, hfind, by simpa using hfile⟩
      · have hmem := Node.mem_byName.mp he
        obtain ⟨rel, found, hrel, rfl, hfind, hfile⟩ := (ih e hmem (hentries e hmem).2).mp (by simpa using hp)
        refine ⟨e.1 :: rel, found, by simp, by simp, ?_, hfile⟩
        rw [Node.find?_directory_cons (hlookup.mpr hmem), hfind]
    · rintro ⟨rel, found, hrel, rfl, hfind, hfile⟩
      obtain ⟨name, rest, rfl⟩ := List.exists_cons_of_ne_nil hrel
      obtain ⟨next, hnext, hfind⟩ := Option.bind_eq_some_iff.mp hfind
      have hmem := hlookup.mp hnext
      have hsorted := Node.mem_byName.mpr hmem
      -- one name is a file of the directory, more names lead below the entry of the first
      by_cases hrest : rest = []
      · subst hrest
        cases hfind
        exact Or.inl ⟨(name, found), List.mem_filter.mpr ⟨hsorted, by simpa using hfile⟩, rfl⟩
      · refine Or.inr ⟨(name, next), hsorted, ?_⟩
        rw [if_pos rfl, ih _ hmem (hentries _ hmem).2]
        exact ⟨rest, found, hrest, by simp, hfind, hfile⟩

/-! ## Traversals -/

/-- The list holds what counts as a file below the place, each once and in the order of a walk. -/
structure IsTraversal (place : List Text) (l : List (List Text)) : Prop where
  mem_iff : ∀ p, p ∈ l ↔ ∃ rel found, rel ≠ [] ∧ p = place ++ rel ∧ t.root.find? p = some found ∧
    t.countsAsFile p found = true
  ordered : l.Pairwise (WalksBefore place)

variable {t}

theorem IsTraversal.nodup {place : List Text} {l : List (List Text)} (h : t.IsTraversal place l) :
    l.Nodup := by
  refine h.ordered.imp fun hpq heq => ?_
  subst heq
  exact hpq.asymm hpq

/-- There is one traversal only. -/
theorem IsTraversal.eq {place : List Text} {l l' : List (List Text)} (h : t.IsTraversal place l)
    (h' : t.IsTraversal place l') : l = l' := by
  have hperm : l.Perm l' :=
    (List.perm_ext_iff_of_nodup h.nodup h'.nodup).mpr fun p => by rw [h.mem_iff, h'.mem_iff]
  exact hperm.eq_of_pairwise (fun p q _ _ hpq hqp => absurd hqp hpq.asymm) h.ordered h'.ordered

theorem isTraversal_everyFile (h : t.root.isProper = true) (place : List Text) :
    t.IsTraversal place (t.everyFile place) := by
  unfold everyFile
  cases hplace : t.root.find? place with
  | none =>
    refine ⟨fun p => ⟨fun hp => absurd hp List.not_mem_nil, ?_⟩, .nil⟩
    rintro ⟨rel, found, -, rfl, hfind, -⟩
    rw [Node.find?_append, hplace] at hfind
    cases hfind
  | some node =>
    have hnode := (Node.isProper_of_find? h hplace).1
    refine ⟨fun p => ?_, t.pairwise_filesBelow _ _ place hnode⟩
    rw [Option.elim_some, t.mem_filesBelow_iff hnode]
    refine exists_congr fun rel => exists_congr fun found => ?_
    refine and_congr_right fun _ => and_congr_right fun hp => ?_
    rw [hp, Node.find?_append, hplace, Option.bind_some]

theorem isTraversal_iff (h : t.root.isProper = true) {place : List Text} {l : List (List Text)} :
    t.IsTraversal place l ↔ l = t.everyFile place := by
  constructor
  · exact fun hl => hl.eq (isTraversal_everyFile h place)
  · rintro rfl
    exact isTraversal_everyFile h place

end FileTree

/-! ## Selections -/

namespace Selection

/-- The paths that a selection takes: the name has one of the extensions and is not excluded, and none of
the directories is one of those passed over. -/
def Admits (s : Selection) (p : List Text) : Prop :=
  ∃ directories name, p = directories ++ [name] ∧ extension name ∈ s.extensions ∧ name ∉ s.exclude ∧
    ∀ d ∈ directories, d ∉ skippedDirectories ∧ ¬".egg-info".toList <:+ d ∧ d ∉ s.exclude

theorem enters_iff {s : Selection} {d : Text} :
    s.enters d = true ↔ d ∉ skippedDirectories ∧ ¬".egg-info".toList <:+ d ∧ d ∉ s.exclude := by
  rw [← List.isSuffixOf_iff_suffix, Bool.not_eq_true]
  simp [enters, and_assoc]

theorem takes_iff {s : Selection} {name : Text} :
    s.takes name = true ↔ extension name ∈ s.extensions ∧ name ∉ s.exclude := by
  simp [takes]

theorem admitted_iff {s : Selection} {p : List Text} :
    FileTree.admitted s.enters s.takes p = true ↔ s.Admits p := by
  unfold FileTree.admitted Admits
  rcases List.eq_nil_or_concat p with rfl | ⟨directories, name, rfl⟩
  · simp
  · simp [enters_iff, takes_iff]
    tauto

instance (s : Selection) (p : List Text) : Decidable (s.Admits p) :=
  decidable_of_iff _ admitted_iff

end Selection

/-- A walk leaves out the files that the selection does not take, and nothing else. -/
theorem FileTree.walk_eq_filter_everyFile (t : FileTree) (s : Selection) (place : List Text) :
    t.walk s place = (t.everyFile place).filter fun p => s.Admits (p.drop place.length) := by
  have hadmitted : (fun p : List Text => admitted s.enters s.takes (p.drop place.length)) =
      fun p => decide (s.Admits (p.drop place.length)) := by
    funext p
    rw [← Bool.coe_iff_coe, decide_eq_true_iff, Selection.admitted_iff]
  unfold walk everyFile
  cases t.root.find? place with
  | none => rfl
  | some node => rw [Option.elim_some, Option.elim_some, filesBelow_eq_filter, hadmitted]

end CodeSmell
