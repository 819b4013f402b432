import CodeSmell.Files.Resolve
import CodeSmell.Proofs.Files.Paths
import CodeSmell.Proofs.Files.Walk
import Mathlib.Data.List.Induction

/-!
# Places and the paths that lead to them

* `parse_text_absolute` : the written path of a place reads back as the place;
* `next_of_directory` : on the way to a directory there are directories only;
* `followFrom_directory`, `resolveFrom_directory` : so the way is followed and resolved name by name;
* `IsShort place` : the path of the place is short enough to be followed;
* `stat_directory`, `resolve_directory` : the path of a directory leads to it, and is resolved to its place;
* `follow_link` : the path of a link in a directory leads where its target does; `stat_brokenLink` : to nothing, if
  its target is not there.
-/

namespace CodeSmell

/-! ## Written places -/

namespace PathName

theorem text_absolute (p : List Text) : (absolute p).text = '/' :: ['/'].intercalate p := by
  simp [text, absolute]

theorem takeWhile_text_absolute {p : List Text} (h : ∀ name ∈ p, isEntryName name = true) :
    (absolute p).text.takeWhile (· == '/') = ['/'] := by
  rw [text_absolute]
  cases p with
  | nil => rfl
  | cons name p =>
    obtain ⟨hname, -, -, hslash⟩ := isEntryName_iff.mp (h name List.mem_cons_self)
    obtain ⟨c, name, rfl⟩ := List.exists_cons_of_ne_nil hname
    have hc : c ≠ '/' := fun hc => hslash (by simp [hc])
    cases p <;> simp [hc]

/-- Written and read again, a place of names is the same. -/
theorem parse_text_absolute {p : List Text} (h : ∀ name ∈ p, isEntryName name = true) :
    parse (absolute p).text = absolute p := by
  have hcomponents : (parse (absolute p).text).components = p := by
    obtain ⟨void, hvoid, hsplit⟩ :=
      splitOn_text (p := absolute p) fun name hname => (isEntryName_iff.mp (h name hname)).2.2.2
    rw [components_parse, hsplit, List.filter_append]
    have hnone : void.filter (fun c => !c.isEmpty && c != ['.']) = [] := by
      rw [List.filter_eq_nil_iff]
      intro name hname
      rcases hvoid name hname with rfl | rfl <;> simp
    rw [hnone, List.nil_append]
    refine List.filter_eq_self.mpr fun name hname => ?_
    obtain ⟨hempty, hdot, -⟩ := isEntryName_iff.mp (h name hname)
    simp [hempty, hdot]
  have hslashes : (parse (absolute p).text).slashes = 1 := by
    simp only [parse, takeWhile_text_absolute h]
    rfl
  cases hparse : parse (absolute p).text with
  | mk slashes components =>
    rw [hparse] at hcomponents hslashes
    rw [absolute, ← hcomponents, ← hslashes]

end PathName

/-! ## Directories -/

namespace FileTree

variable {t : FileTree}

section
variable {entries : List (Text × Node)}

theorem next_of_directory {here names : List Text} {name : Text}
    (hfind : t.root.find? (here ++ name :: names) = some (.directory entries)) :
    ¬(t.root.find? here).any (!·.isDirectory) = true ∧
      ∃ node, t.root.find? (here ++ [name]) = some node ∧ ∀ target, node ≠ .link target := by
  constructor
  · rw [Node.find?_append] at hfind
    obtain ⟨node, hnode, hfind⟩ := Option.bind_eq_some_iff.mp hfind
    simp [hnode, Node.isDirectory_of_find? hfind]
  · rw [List.append_cons, Node.find?_append] at hfind
    obtain ⟨node, hnode, hrest⟩ := Option.bind_eq_some_iff.mp hfind
    refine ⟨node, hnode, ?_⟩
    rintro target rfl
    cases Node.isDirectory_of_find? hrest

/-- The way to a directory has no links on it, so it is followed to the directory, unless a name is too long. -/
theorem followFrom_directory (links : Nat) (here : List Text) {names : List Text} (rest : List Text)
    (hfind : t.root.find? (here ++ names) = some (.directory entries))
    (hnames : ∀ name ∈ names, isEntryName name = true) :
    t.followFrom links here (names ++ rest) =
      if ∀ name ∈ names, Utf8.size name ≤ maxName then t.followFrom links (here ++ names) rest
      else .error .nameTooLong := by
  induction names generalizing here with
  | nil => simp
  | cons name names ih =>
    obtain ⟨hentry, hnames⟩ := List.forall_mem_cons.mp hnames
    obtain ⟨hname, hdot, hup, -⟩ := isEntryName_iff.mp hentry
    obtain ⟨hhere, node, hnode, hlink⟩ := next_of_directory hfind
    have hplain : ¬(name = [] ∨ name = ['.']) := by simp [hname, hdot]
    rw [List.append_cons] at hfind ⊢
    by_cases hsize : maxName < Utf8.size name
    · rw [List.cons_append, followFrom, if_neg hhere, if_neg hplain, if_neg hup, if_pos hsize, if_neg]
      simp only [List.forall_mem_cons, not_and_or, Nat.not_le]
      exact Or.inl hsize
    · rw [List.cons_append, followFrom_entry ⟨hhere, hplain, hup, hsize⟩ hnode hlink, ih _ hfind hnames]
      simp only [List.forall_mem_cons, Nat.not_lt.mp hsize, true_and]

theorem resolveFrom_directory (depth : Nat) (known : KnownLinks) (here : List Text) {names : List Text}
    (hfind : t.root.find? (here ++ names) = some (.directory entries))
    (hnames : ∀ name ∈ names, isEntryName name = true) :
    t.resolveFrom depth known here names = (known, .place (here ++ names)) := by
  induction names generalizing here with
  | nil => rw [resolveFrom, List.append_nil]
  | cons name names ih =>
    obtain ⟨hentry, hnames⟩ := List.forall_mem_cons.mp hnames
    obtain ⟨hname, hdot, hup, -⟩ := isEntryName_iff.mp hentry
    obtain ⟨-, node, hnode, hlink⟩ := next_of_directory hfind
    rw [List.append_cons] at hfind ⊢
    rw [resolveFrom, if_neg (by simp [hname, hdot]), if_neg hup, hnode, ← ih _ hfind hnames]
    cases node with
    | link target => exact absurd rfl (hlink target)
    | file _ | directory _ | nullDevice => rfl

theorem resolveFrom_append_void (depth : Nat) (known : KnownLinks) (here : List Text) {void : List Text}
    (hvoid : ∀ name ∈ void, name = [] ∨ name = ['.']) (names : List Text) :
    t.resolveFrom depth known here (void ++ names) = t.resolveFrom depth known here names := by
  induction void with
  | nil => rfl
  | cons name void ih =>
    rw [List.forall_mem_cons] at hvoid
    rw [List.cons_append, resolveFrom, if_pos hvoid.1, ih hvoid.2]

theorem plainPlace_eq_self {place : List Text} (hnames : ∀ name ∈ place, isEntryName name = true) :
    plainPlace place = place := by
  induction place using List.reverseRecOn with
  | nil => rfl
  | append_singleton place name ih =>
    obtain ⟨hplace, hname⟩ := List.forall_mem_append.mp hnames
    obtain ⟨hempty, hdot, hup, -⟩ := isEntryName_iff.mp (hname name (List.mem_singleton_self _))
    rw [plainPlace, List.foldl_append, ← plainPlace, ih hplace, List.foldl_cons, List.foldl_nil,
      if_neg (by simp [hempty, hdot]), if_neg hup]

variable {place : List Text}

/-- The path of a place starts from the root and goes along its names. -/
theorem names_absolute (hnames : ∀ name ∈ place, isEntryName name = true) :
    startOf t.workingDirectory (PathName.absolute place).text = [] ∧
      ∃ void : List Text, (∀ name ∈ void, name = [] ∨ name = ['.']) ∧
        Text.splitOn '/' (PathName.absolute place).text = void ++ place := by
  constructor
  · rw [PathName.text_absolute]
    rfl
  · exact PathName.splitOn_text (p := PathName.absolute place)
      fun name hname => (isEntryName_iff.mp (hnames name hname)).2.2.2

/-- The path of the place, and each name in it, is short enough to be followed. -/
def IsShort (place : List Text) : Prop :=
  Utf8.size (PathName.absolute place).text ≤ maxPath ∧ ∀ name ∈ place, Utf8.size name ≤ maxName

instance : Decidable (IsShort place) :=
  inferInstanceAs (Decidable (_ ∧ _))

/-- The path of a place is followed from the root along its names. -/
theorem follow_absolute (hroot : t.root.isDirectory = true) (hnames : ∀ name ∈ place, isEntryName name = true)
    (hsize : Utf8.size (PathName.absolute place).text ≤ maxPath) :
    t.follow (PathName.absolute place).text = t.followFrom maxLinks [] place := by
  obtain ⟨hstart, void, hvoid, hsplit⟩ := names_absolute (t := t) hnames
  have hne : (PathName.absolute place).text.isEmpty = false := by
    rw [PathName.text_absolute]
    rfl
  have hdir : ¬(t.root.find? []).any (!·.isDirectory) = true := by simp [Node.find?, hroot]
  unfold follow start
  simp only [if_neg (Nat.not_lt.mpr hsize), hne, Bool.false_eq_true, if_false, hstart, hsplit]
  exact followFrom_append_void hdir hvoid place

theorem follow_directory (hfind : t.root.find? place = some (.directory entries))
    (hnames : ∀ name ∈ place, isEntryName name = true) :
    t.follow (PathName.absolute place).text = if IsShort place then .ok place else .error .nameTooLong := by
  by_cases hsize : Utf8.size (PathName.absolute place).text ≤ maxPath
  · rw [follow_absolute (Node.isDirectory_of_find? hfind) hnames hsize, ← List.append_nil place,
      followFrom_directory maxLinks [] [] hfind hnames, List.append_nil]
    simp only [IsShort, hsize, true_and, List.nil_append, followFrom]
  · rw [if_neg fun h => hsize h.1, follow, start, if_pos (Nat.not_le.mp hsize)]
    rfl

/-- A link in a directory leads where its target does. -/
theorem follow_link (place : List Text) (name target : Text)
    (hfind : t.root.find? place = some (.directory entries))
    (hlink : t.root.find? (place ++ [name]) = some (.link target))
    (hnames : ∀ n ∈ place ++ [name], isEntryName n = true) (hshort : IsShort (place ++ [name])) :
    t.follow (PathName.absolute (place ++ [name])).text =
      t.followFrom (maxLinks - 1) (startOf place target) (Text.splitOn '/' target) := by
  obtain ⟨hplace, hname⟩ := List.forall_mem_append.mp hnames
  obtain ⟨hpath, hsizes⟩ := hshort
  obtain ⟨hsizes, hsize⟩ := List.forall_mem_append.mp hsizes
  obtain ⟨hempty, hdot, hup, -⟩ := isEntryName_iff.mp (hname name (List.mem_singleton_self _))
  have hgoes : t.GoesOn place name := by
    refine ⟨by simp [hfind, Node.isDirectory], by simp [hempty, hdot], hup, ?_⟩
    exact Nat.not_lt.mpr (hsize name (List.mem_singleton_self _))
  rw [follow_absolute (Node.isDirectory_of_find? hfind) hnames hpath,
    followFrom_directory maxLinks [] [name] hfind hplace, if_pos hsizes]
  exact (followFrom_link hgoes hlink []).trans (by rw [List.append_nil]; rfl)

/-- A link to a name that is not in the root leads nowhere. -/
theorem stat_brokenLink (place : List Text) (name away : Text)
    (hfind : t.root.find? place = some (.directory entries))
    (hlink : t.root.find? (place ++ [name]) = some (.link ('/' :: away)))
    (hnames : ∀ n ∈ place ++ [name], isEntryName n = true) (hshort : IsShort (place ++ [name]))
    (haway : t.GoesOn [] away ∧ '/' ∉ away) (hnone : t.root.find? [away] = none) :
    t.stat (PathName.absolute (place ++ [name])).text = .error .notFound := by
  have hsplit : Text.splitOn '/' ('/' :: away) = [[]] ++ [away] := by
    rw [Text.splitOn_cons_sep, Text.splitOn_of_notMem haway.2]
    rfl
  have hfollow : t.follow (PathName.absolute (place ++ [name])).text = .error .notFound := by
    rw [follow_link place name _ hfind hlink hnames hshort, hsplit]
    show t.followFrom _ [] _ = _
    rw [followFrom_append_void haway.1.1 (by simp), followFrom_missing haway.1 hnone]
  rw [stat, hfollow]
  rfl

theorem stat_directory (hfind : t.root.find? place = some (.directory entries))
    (hnames : ∀ name ∈ place, isEntryName name = true) :
    t.stat (PathName.absolute place).text =
      if IsShort place then .ok (.directory entries) else .error .nameTooLong := by
  rw [stat, follow_directory hfind hnames]
  split_ifs
  · simp only [bind, Except.bind, hfind]
  · rfl

theorem isFile_eq_false_of_directory (hfind : t.root.find? place = some (.directory entries))
    (hnames : ∀ name ∈ place, isEntryName name = true) :
    t.isFile (PathName.absolute place).text = false := by
  rw [isFile, stat_directory hfind hnames]
  split_ifs <;> rfl

theorem resolve_directory (hfind : t.root.find? place = some (.directory entries))
    (hnames : ∀ name ∈ place, isEntryName name = true) : t.resolve (PathName.absolute place).text = place := by
  obtain ⟨hstart, void, hvoid, hsplit⟩ := names_absolute (t := t) hnames
  rw [resolve, hstart, hsplit, resolveFrom_append_void _ _ _ hvoid, resolveFrom_directory _ _ [] hfind hnames]
  exact plainPlace_eq_self hnames

end

end FileTree

end CodeSmell
