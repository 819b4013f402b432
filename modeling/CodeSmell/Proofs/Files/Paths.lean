import CodeSmell.Files.Tree
import CodeSmell.Proofs.Text.Utf8

/-!
# Path names in normal form

* `Thins names names'` : `names'` is `names` without some empty names and dots;
* `GoesOn t here name` : a way goes on from `here` to the entry `name`; `followFrom_entry`, `followFrom_link`,
  `followFrom_missing` : to what is there, along a link, or to nothing;
* `followFrom_thins` : names that say nothing may be left out on a way that leads somewhere;
* `splitOn_text` : the names along a written path name are names that say nothing and its components;
* `size_text_parse_le`, `startOf_text_parse` : the normal form of a path is no longer than the path and
  starts from the same place;
* `stat_text_parse` : the normal form of a path leads to what the path leads to.
-/

namespace CodeSmell

namespace Text

theorem splitOn_replicate_append (sep : Char) (n : Nat) (t : Text) :
    Text.splitOn sep (List.replicate n sep ++ t) = List.replicate n [] ++ Text.splitOn sep t := by
  induction n with
  | zero => rfl
  | succ n ih => rw [List.replicate_succ, List.cons_append, splitOn_cons_sep, ih]; rfl

/-- Joining some of the parts of a text leaves out characters and adds none. -/
theorem intercalate_filter_sublist (sep : Char) (keep : Text → Bool) (t : Text) :
    ([sep].intercalate ((Text.splitOn sep t).filter keep)).Sublist t := by
  induction t using parts_induction sep with
  | last p hp =>
    rw [splitOn_of_notMem hp, List.filter_cons]
    split_ifs <;> simp
  | step p t hp ih =>
    rw [splitOn_append_sep hp, List.filter_cons]
    split_ifs
    · cases hrest : (Text.splitOn sep t).filter keep with
      | nil => simp
      | cons q ps =>
        rw [hrest] at ih
        rw [List.intercalate_cons_cons, List.append_assoc]
        exact (ih.cons_cons sep).append_left p
    · exact (ih.cons sep).trans (List.sublist_append_right p _)

end Text

namespace FileTree

/-- The second list is the first without some names that say nothing. -/
inductive Thins : List Text → List Text → Prop
  | nil : Thins [] []
  | keep {names names' : List Text} (name : Text) :
    Thins names names' → Thins (name :: names) (name :: names')
  | drop {name : Text} {names names' : List Text} :
    name = [] ∨ name = ['.'] → Thins names names' → Thins (name :: names) names'

theorem Thins.append_left {names names' : List Text} (h : Thins names names') :
    ∀ front : List Text, Thins (front ++ names) (front ++ names')
  | [] => h
  | name :: front => .keep name (h.append_left front)

theorem Thins.exists_of_cons {name : Text} {names names' : List Text} (h : Thins (name :: names) names')
    (hname : ¬(name = [] ∨ name = ['.'])) : ∃ rest, names' = name :: rest ∧ Thins names rest := by
  cases h with
  | keep _ h => exact ⟨_, rfl, h⟩
  | drop hvoid _ => exact absurd hvoid hname

theorem thins_filter (names : List Text) :
    Thins names (names.filter fun name => !name.isEmpty && name != ['.']) := by
  induction names with
  | nil => exact .nil
  | cons name names ih =>
    rw [List.filter_cons]
    split_ifs with h
    · exact .keep name ih
    · refine .drop ?_ ih
      simpa [Classical.or_iff_not_imp_left] using h

section
variable {t : FileTree} {links : Nat} {here place : List Text} {name : Text}

/-- From the place `here` a way goes on to what stands there under the name, if anything does. -/
def GoesOn (t : FileTree) (here : List Text) (name : Text) : Prop :=
  ¬(t.root.find? here).any (!·.isDirectory) = true ∧ ¬(name = [] ∨ name = ['.']) ∧ name ≠ ['.', '.'] ∧
    ¬maxName < Utf8.size name

instance : Decidable (t.GoesOn here name) :=
  inferInstanceAs (Decidable (_ ∧ _))

theorem followFrom_entry (h : t.GoesOn here name) {node : Node}
    (hfind : t.root.find? (here ++ [name]) = some node) (hlink : ∀ target, node ≠ .link target)
    (rest : List Text) : t.followFrom links here (name :: rest) = t.followFrom links (here ++ [name]) rest := by
  obtain ⟨hdir, hname, hup, hsize⟩ := h
  rw [followFrom, if_neg hdir, if_neg hname, if_neg hup, if_neg hsize, hfind]
  cases node with
  | link target => exact absurd rfl (hlink target)
  | file _ | directory _ | nullDevice => rfl

theorem followFrom_link (h : t.GoesOn here name) {target : Text}
    (hfind : t.root.find? (here ++ [name]) = some (.link target)) (rest : List Text) :
    t.followFrom (links + 1) here (name :: rest) =
      t.followFrom links (startOf here target) (Text.splitOn '/' target ++ rest) := by
  obtain ⟨hdir, hname, hup, hsize⟩ := h
  rw [followFrom, if_neg hdir, if_neg hname, if_neg hup, if_neg hsize, hfind]

theorem followFrom_missing (h : t.GoesOn here name) (hfind : t.root.find? (here ++ [name]) = none)
    (rest : List Text) : t.followFrom links here (name :: rest) = .error .notFound := by
  obtain ⟨hdir, hname, hup, hsize⟩ := h
  rw [followFrom, if_neg hdir, if_neg hname, if_neg hup, if_neg hsize, hfind]

/-- A way that leads somewhere leads there also without the names that say nothing. -/
theorem followFrom_thins {names names' : List Text} (h : t.followFrom links here names = .ok place)
    (hthin : Thins names names') : t.followFrom links here names' = .ok place := by
  fun_induction followFrom t links here names generalizing names' with
  | case1 =>
    cases hthin
    rw [followFrom, ← h]
  | case3 links here name rest hdir hvoid ih =>
    cases hthin with
    | keep _ hthin => rw [followFrom, if_neg hdir, if_pos hvoid, ih h hthin]
    | drop _ hthin => exact ih h hthin
  | case4 links here rest hdir hname ih =>
    obtain ⟨rest', rfl, hrest⟩ := hthin.exists_of_cons hname
    rw [followFrom, if_neg hdir, if_neg hname, if_pos rfl, ih h hrest]
  | case7 here name rest hdir hname hup hsize target hfind links ih =>
    obtain ⟨rest', rfl, hrest⟩ := hthin.exists_of_cons hname
    rw [followFrom_link ⟨hdir, hname, hup, hsize⟩ hfind]
    exact ih h (hrest.append_left _)
  | case8 links here name rest hdir hname hup hsize node hlink hfind ih =>
    obtain ⟨rest', rfl, hrest⟩ := hthin.exists_of_cons hname
    rw [followFrom_entry ⟨hdir, hname, hup, hsize⟩ hfind hlink]
    exact ih h hrest
  | case2 | case5 | case6 | case9 => cases h

/-- What is gone from must be a directory, if there is anything. -/
theorem isDirectory_of_followFrom {names : List Text}
    (h : t.followFrom links here (name :: names) = .ok place) :
    ¬(t.root.find? here).any (!·.isDirectory) = true := by
  intro hdir
  rw [followFrom, if_pos hdir] at h
  cases h

theorem followFrom_append_void (hdir : ¬(t.root.find? here).any (!·.isDirectory) = true)
    {void : List Text} (hvoid : ∀ name ∈ void, name = [] ∨ name = ['.']) (names : List Text) :
    t.followFrom links here (void ++ names) = t.followFrom links here names := by
  induction void with
  | nil => rfl
  | cons name void ih =>
    rw [List.forall_mem_cons] at hvoid
    rw [List.cons_append, followFrom, if_neg hdir, if_pos hvoid.1, ih hvoid.2]

end

end FileTree

namespace PathName

/-- The names along a written path name: some that say nothing, and its components. -/
theorem splitOn_text {p : PathName} (hcomponents : ∀ name ∈ p.components, '/' ∉ name) :
    ∃ void : List Text, (∀ name ∈ void, name = [] ∨ name = ['.']) ∧
      Text.splitOn '/' p.text = void ++ p.components := by
  unfold text
  split_ifs with hdot
  · exact ⟨[['.']], by simp, by rw [hdot.2]; rfl⟩
  rw [Text.splitOn_replicate_append]
  have hvoid (n : Nat) : ∀ name ∈ List.replicate n ([] : Text), name = [] ∨ name = ['.'] :=
    fun name hname => Or.inl (List.eq_of_mem_replicate hname)
  by_cases hnone : p.components = []
  · exact ⟨List.replicate (p.slashes + 1) [], hvoid _, by simp [hnone, List.replicate_succ']⟩
  · refine ⟨List.replicate p.slashes [], hvoid _, ?_⟩
    rw [Text.splitOn_eq_list, List.splitOn_intercalate '/' hcomponents hnone]

section
variable (path : Text)

theorem components_parse :
    (parse path).components = (Text.splitOn '/' path).filter fun c => !c.isEmpty && c != ['.'] := rfl

theorem notMem_of_mem_components {name : Text} (h : name ∈ (parse path).components) : '/' ∉ name :=
  Text.notMem_of_mem_splitOn (List.mem_of_mem_filter h)

/-- A path is its leading slashes and a rest that does not start with one. -/
theorem exists_slashes : ∃ lead rest, path = List.replicate lead '/' ++ rest ∧ rest.head? ≠ some '/' ∧
    (parse path).slashes = if lead = 2 then 2 else min lead 1 := by
  refine ⟨(path.takeWhile (· == '/')).length, path.dropWhile (· == '/'), ?_, ?_, rfl⟩
  · have hlead : path.takeWhile (· == '/') = List.replicate (path.takeWhile (· == '/')).length '/' :=
      List.eq_replicate_of_mem fun c hc => by simpa using List.mem_takeWhile_imp hc
    rw [← hlead, List.takeWhile_append_dropWhile]
  · intro hhead
    have := List.head?_dropWhile_not (· == '/') path
    rw [hhead] at this
    simp at this

theorem size_text_parse_le (hpath : path ≠ []) : Utf8.size (parse path).text ≤ Utf8.size path := by
  unfold text
  split_ifs
  · obtain ⟨c, path, rfl⟩ := List.exists_cons_of_ne_nil hpath
    have := c.utf8Size_pos
    rw [Utf8.size_cons, Utf8.size_cons, Utf8.size_nil, show Char.utf8Size '.' = 1 from rfl]
    omega
  · apply Utf8.size_le_of_sublist
    obtain ⟨lead, rest, hsplit, -, hslashes⟩ := exists_slashes path
    have hrest : (parse path).components =
        (Text.splitOn '/' rest).filter fun c => !c.isEmpty && c != ['.'] := by
      rw [components_parse, hsplit, Text.splitOn_replicate_append, List.filter_append,
        List.filter_replicate_of_neg (by simp), List.nil_append]
    rw [hrest]
    nth_rewrite 2 [hsplit]
    have hle : (parse path).slashes ≤ lead := by
      rw [hslashes]
      split_ifs <;> omega
    exact ((List.replicate_sublist_replicate '/').mpr hle).append
      (Text.intercalate_filter_sublist '/' _ rest)

theorem head?_eq_slash_iff : path.head? = some '/' ↔ (parse path).slashes ≠ 0 := by
  obtain ⟨lead, rest, hsplit, hhead, hslashes⟩ := exists_slashes path
  rw [hslashes]
  cases lead with
  | zero =>
    rw [List.replicate_zero, List.nil_append] at hsplit
    simpa [hsplit] using hhead
  | succ n =>
    have hpath : path.head? = some '/' := by rw [hsplit]; rfl
    split_ifs <;> simp [hpath]

/-- The normal form of a path is not empty, and starts with a slash if the path does. -/
theorem text_parse_eq_cons :
    ∃ c rest, (parse path).text = c :: rest ∧ (c = '/' ↔ (parse path).slashes ≠ 0) := by
  unfold text
  split_ifs with hdot
  · exact ⟨'.', [], rfl, by simp [hdot.1]⟩
  cases hslashes : (parse path).slashes with
  | succ n => exact ⟨'/', _, rfl, by simp⟩
  | zero =>
    cases hcomponents : (parse path).components with
    | nil => exact absurd ⟨hslashes, hcomponents⟩ hdot
    | cons name names =>
      have hmem : name ∈ (parse path).components := by simp [hcomponents]
      have hslash := notMem_of_mem_components path hmem
      have hempty := List.of_mem_filter hmem
      cases name with
      | nil => simp at hempty
      | cons c name =>
        rw [List.mem_cons, not_or] at hslash
        refine ⟨c, name ++ ['/'].intercalate ([] :: names), ?_, by simp [Ne.symm hslash.1]⟩
        cases names <;> simp

end

end PathName

namespace FileTree
open PathName
variable {t : FileTree} {path : Text}

theorem startOf_text_parse (here : List Text) : startOf here (parse path).text = startOf here path := by
  obtain ⟨c, rest, htext, hc⟩ := text_parse_eq_cons path
  rw [startOf, startOf, htext]
  simp only [head?_eq_slash_iff path, ← hc, List.head?_cons, Option.some.injEq]

theorem follow_eq_ok {place : List Text} :
    t.follow path = .ok place ↔
      Utf8.size path ≤ maxPath ∧ path ≠ [] ∧
        t.followFrom maxLinks (startOf t.workingDirectory path) (Text.splitOn '/' path) = .ok place := by
  unfold follow start
  by_cases hsize : maxPath < Utf8.size path
  · rw [if_pos hsize]
    exact ⟨fun h => (by cases h), fun h => absurd h.1 (Nat.not_le.mpr hsize)⟩
  by_cases hpath : path = []
  · subst hpath
    exact ⟨fun h => (by cases h), fun h => absurd rfl h.2.1⟩
  · rw [if_neg hsize, if_neg (by simpa using hpath)]
    exact ⟨fun h => ⟨Nat.not_lt.mp hsize, hpath, h⟩, fun h => h.2.2⟩

theorem follow_text_parse {place : List Text} (h : t.follow path = .ok place) :
    t.follow (parse path).text = .ok place := by
  rw [follow_eq_ok] at h ⊢
  obtain ⟨hsize, hpath, h⟩ := h
  obtain ⟨c, rest, htext, -⟩ := text_parse_eq_cons path
  refine ⟨(size_text_parse_le path hpath).trans hsize, by simp [htext], ?_⟩
  -- only names that say nothing come or go, and they need no more than a directory to start from
  obtain ⟨void, hvoid, hnames⟩ := splitOn_text fun _ => notMem_of_mem_components path
  rw [startOf_text_parse, hnames, followFrom_append_void _ hvoid]
  · exact followFrom_thins h (thins_filter _)
  · obtain ⟨name, names, hcons⟩ :=
      List.exists_cons_of_ne_nil (Text.splitOn_eq_list '/' path ▸ List.splitOn_ne_nil '/' path)
    rw [hcons] at h
    exact isDirectory_of_followFrom h

theorem stat_text_parse {node : Node} (h : t.stat path = .ok node) :
    t.stat (parse path).text = .ok node := by
  unfold stat at h ⊢
  cases hfollow : t.follow path with
  | error e => rw [hfollow] at h; cases h
  | ok place =>
    rw [hfollow] at h
    rw [follow_text_parse hfollow]
    exact h

end FileTree

end CodeSmell
