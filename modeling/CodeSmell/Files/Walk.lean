import CodeSmell.Files.Tree

/-!
# Walks through a file tree

A walk lists the files below a directory: those of the directory itself in the order of their names,
then those of its subdirectories in the order of theirs. Symbolic links to directories are not
entered, other links count as files.

A walk goes by the names in the tree, and assumes that a directory can be opened wherever it stands. The
bounds of `FileTree.follow` on the length of a path and of a name therefore hold for the links on the way, which
are looked up by their paths, and not for the directories: one too far down to be opened by its path is entered
all the same.

* `FileTree.filesBelow`: the files below a place, for a choice of directories and files;
* `FileTree.everyFile`: all files below a place;
* `Selection`: which directories are entered and which files are taken;
* `FileTree.walk`: the files of a selection.
-/

namespace CodeSmell

/-- What a walk finds under one name of a directory. -/
inductive Listed where
  | file
  | below (paths : List (List Text))
  | none
deriving DecidableEq, Repr

/-- Names in the order of their characters' code points. -/
def nameLe (a b : Text × Listed) : Bool :=
  !decide (b.1 < a.1)

/-- Puts together what a directory holds: files by name, then the files below its subdirectories. -/
def arrange (place : List Text) (listed : List (Text × Listed)) : List (List Text) :=
  (listed.mergeSort nameLe).filterMap (fun
    | (name, .file) => some (place ++ [name])
    | _ => Option.none) ++
  (listed.mergeSort nameLe).flatMap (fun
    | (_, .below paths) => paths
    | _ => [])

namespace FileTree

def leadsToDirectory (t : FileTree) (place : List Text) : Bool :=
  match t.stat (PathName.absolute place).text with
  | .ok node => node.isDirectory
  | .error _ => false

mutual

/-- The files below the node at `place`: directories whose name satisfies `enter` are entered, and
files whose name satisfies `take` are listed. -/
def filesBelow (t : FileTree) (enter take : Text → Bool) (place : List Text) :
    Node → List (List Text)
  | .directory entries => arrange place (listEntries t enter take place entries)
  | _ => []

def listEntries (t : FileTree) (enter take : Text → Bool) (place : List Text) :
    List (Text × Node) → List (Text × Listed)
  | [] => []
  | (name, .directory entries) :: rest =>
    (name, if enter name then .below (filesBelow t enter take (place ++ [name]) (.directory entries))
      else .none) :: listEntries t enter take place rest
  | (name, .file _) :: rest =>
    (name, if take name then .file else .none) :: listEntries t enter take place rest
  | (name, .nullDevice) :: rest =>
    (name, if take name then .file else .none) :: listEntries t enter take place rest
  | (name, .link _) :: rest =>
    (name, if leadsToDirectory t (place ++ [name]) then .none
      else if take name then .file else .none) :: listEntries t enter take place rest

end

def everyFile (t : FileTree) (place : List Text) : List (List Text) :=
  (t.root.find? place).elim [] (filesBelow t (fun _ => true) (fun _ => true) place)

end FileTree

/-- Directories that hold no sources of their own. -/
def skippedDirectories : List Text :=
  [".git", ".hg", ".svn", "node_modules", "__pycache__", ".mypy_cache", ".pytest_cache",
    ".ruff_cache", ".venv", "venv", ".env", "env", "dist", "build", ".tox", ".eggs"].map String.toList

/-- Which files a walk takes: those with one of the extensions, except under excluded names. -/
structure Selection where
  extensions : List Text
  exclude : List Text
deriving DecidableEq, Repr

namespace Selection

def enters (s : Selection) (name : Text) : Bool :=
  !skippedDirectories.contains name && !".egg-info".toList.isSuffixOf name &&
    !s.exclude.contains name

def takes (s : Selection) (name : Text) : Bool :=
  s.extensions.contains (extension name) && !s.exclude.contains name

end Selection

def FileTree.walk (t : FileTree) (s : Selection) (place : List Text) : List (List Text) :=
  (t.root.find? place).elim [] (filesBelow t s.enters s.takes place)

end CodeSmell
