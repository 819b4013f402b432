import CodeSmell.Files.Path
import CodeSmell.Text.Utf8

/-!
# File trees

* `Node`: files, directories, symbolic links and the null device;
* `FileTree`: the tree below the root, and the working directory;
* `FileTree.follow`: the place that a path leads to, symbolic links being followed;
* `FileTree.stat`: what is there;
* `FileTree.writePlace`: the place of a file that is written under a path;
* `FileTree.write`: the tree with a file put into it.
-/

namespace CodeSmell

inductive Node where
  | file (content : Bytes)
  | directory (entries : List (Text × Node))
  | link (target : Text)
  /-- What is written to it is gone, and nothing is read from it. It is no file. -/
  | nullDevice
deriving Repr, Inhabited

/-- Why a path leads to nothing that can be used. -/
inductive FileError where
  | notFound
  | notADirectory
  | isADirectory
  | nameTooLong
  | tooManyLinks
deriving DecidableEq, Repr

namespace FileError

def number : FileError → Nat
  | notFound => 2
  | notADirectory => 20
  | isADirectory => 21
  | nameTooLong => 36
  | tooManyLinks => 40

def reason : FileError → Text
  | notFound => "No such file or directory".toList
  | notADirectory => "Not a directory".toList
  | isADirectory => "Is a directory".toList
  | nameTooLong => "File name too long".toList
  | tooManyLinks => "Too many levels of symbolic links".toList

def message (e : FileError) (path : Text) : Text :=
  "[Errno ".toList ++ Text.ofNat e.number ++ "] ".toList ++ e.reason ++ ": ".toList ++ path.quoted

end FileError

namespace Node

def entry? (node : Node) (name : Text) : Option Node :=
  match node with
  | directory entries => entries.lookup name
  | _ => none

/-- The node at a place below a node, no link being followed. -/
def find? (node : Node) : List Text → Option Node
  | [] => some node
  | name :: rest => (node.entry? name).bind (·.find? rest)

def isDirectory : Node → Bool
  | directory _ => true
  | _ => false

/-- Puts `new` under a name; an entry of that name is replaced. -/
def setEntry (name : Text) (new : Node) (entries : List (Text × Node)) : List (Text × Node) :=
  if entries.any (·.1 = name) then entries.map fun e => if e.1 = name then (name, new) else e
  else entries ++ [(name, new)]

/-- Puts `new` at a place below a node; directories on the way are made. -/
def insert (new : Node) (node : Node) : List Text → Node
  | [] => new
  | name :: rest =>
    let entries := match node with
      | directory entries => entries
      | _ => []
    directory (setEntry name (insert new ((entries.lookup name).getD (directory [])) rest) entries)

end Node

/-- The tree below the root and the working directory, whose components are no links. -/
structure FileTree where
  root : Node := .directory []
  workingDirectory : List Text := []
deriving Repr, Inhabited

namespace FileTree

/-- More links than this on one way are too many. -/
def maxLinks : Nat := 40

/-- The longest name of an entry, in bytes. -/
def maxName : Nat := 255

/-- The longest path, in bytes. -/
def maxPath : Nat := 4095

/-- Where a path starts that is followed from the place `here`. -/
def startOf (here : List Text) (path : Text) : List Text :=
  if path.head? = some '/' then [] else here

/-- Goes from the place `here` along `names`. Every step needs a directory and an entry. -/
def followFrom (t : FileTree) (links : Nat) (here : List Text) :
    (names : List Text) → Except FileError (List Text)
  | [] => .ok here
  | name :: rest =>
    if (t.root.find? here).any (!·.isDirectory) then .error .notADirectory
    else if name = [] ∨ name = ['.'] then followFrom t links here rest
    else if name = ['.', '.'] then followFrom t links here.dropLast rest
    else if maxName < Utf8.size name then .error .nameTooLong
    else
      match t.root.find? (here ++ [name]) with
      | some (.link target) =>
        match links with
        | 0 => .error .tooManyLinks
        | links + 1 =>
          followFrom t links (startOf here target) (Text.splitOn '/' target ++ rest)
      | some _ => followFrom t links (here ++ [name]) rest
      | none => .error .notFound
termination_by names => (links, names.length)

/-- The place where a path starts, and the names along it; the empty path leads nowhere. -/
def start (t : FileTree) (path : Text) : Except FileError (List Text × List Text) :=
  if maxPath < Utf8.size path then .error .nameTooLong
  else if path.isEmpty then .error .notFound
  else .ok (startOf t.workingDirectory path, path.splitOn '/')

/-- The place that a path leads to. -/
def follow (t : FileTree) (path : Text) : Except FileError (List Text) := do
  let (here, names) ← t.start path
  t.followFrom maxLinks here names

/-- The path from the root on, as it is written. -/
def absolutePath (t : FileTree) (path : Text) : Text :=
  let p := PathName.parse path
  (PathName.absolute (if p.slashes = 0 then t.workingDirectory ++ p.components else p.components)).text

def stat (t : FileTree) (path : Text) : Except FileError Node := do
  match t.root.find? (← t.follow path) with
  | some node => .ok node
  | none => .error .notFound

def read (t : FileTree) (path : Text) : Except FileError Bytes := do
  match ← t.stat path with
  | .file content => .ok content
  | .nullDevice => .ok []
  | .directory _ => .error .isADirectory
  | .link _ => .error .tooManyLinks

def isFile (t : FileTree) (path : Text) : Bool :=
  match t.stat path with
  | .ok (.file _) => true
  | _ => false

def hasPath (t : FileTree) (path : Text) : Bool :=
  (t.stat path).toOption.isSome

/-- Goes from the place `here` along `names` to a file that is written. The last name need not be there
yet. -/
def writePlaceFrom (t : FileTree) (links : Nat) (here : List Text) :
    (names : List Text) → Except FileError (List Text)
  | [] => .error .isADirectory
  | name :: rest =>
    if (t.root.find? here).any (!·.isDirectory) then .error .notADirectory
    else if name = [] ∨ name = ['.'] then writePlaceFrom t links here rest
    else if name = ['.', '.'] then writePlaceFrom t links here.dropLast rest
    -- a name with a slash after it can only be that of a directory
    else if rest ≠ [] ∧ rest.all (·.isEmpty) then .error .isADirectory
    else if maxName < Utf8.size name then .error .nameTooLong
    else
      match t.root.find? (here ++ [name]) with
      | some (.link target) =>
        match links with
        | 0 => .error .tooManyLinks
        | links + 1 =>
          writePlaceFrom t links (startOf here target) (Text.splitOn '/' target ++ rest)
      | some (.directory _) => writePlaceFrom t links (here ++ [name]) rest
      | some _ => if rest.isEmpty then .ok (here ++ [name]) else .error .notADirectory
      | none => if rest.isEmpty then .ok (here ++ [name]) else .error .notFound
termination_by names => (links, names.length)

def writePlace (t : FileTree) (path : Text) : Except FileError (List Text) := do
  let (here, names) ← t.start path
  t.writePlaceFrom maxLinks here names

def write (t : FileTree) (path : Text) (content : Bytes) : Except FileError FileTree := do
  let place ← t.writePlace path
  match t.root.find? place with
  | some .nullDevice => return t
  | _ => return { t with root := Node.insert (.file content) t.root place }

end FileTree

end CodeSmell
