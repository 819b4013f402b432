import CodeSmell.Line.Statement
import CodeSmell.Smell

/-!
# The state of a scan

What a scan remembers of the lines it has read, and how one line changes it.

* `ScanState`: the state, empty at the start;
* `ScanState.trackIndent`, `recordImports`, `recordAssignment`: what a line adds to it.
-/

namespace CodeSmell

/-- An opening bracket that waits for its closer, with the line and column where it stands. -/
structure OpenBracket where
  bracket : Char
  line : Int
  column : Nat
deriving DecidableEq, Repr

/-- An import statement and the numbers of the lines where it stands, last first. -/
structure ImportLine where
  statement : Text
  seenAt : List Int
deriving DecidableEq, Repr

namespace ImportLine

/-- The line numbers of the statement in the order in which they were read. -/
def lineNumbers (l : ImportLine) : List Int :=
  l.seenAt.reverse

end ImportLine

structure ScanState where
  /-- Some indentation held a tab. -/
  hasTabs : Bool := false
  /-- Some indentation held a space. -/
  hasSpaces : Bool := false
  /-- The indentation widths above zero, in increasing order. -/
  indentLevels : List Nat := []
  /-- The imported names, in order of their first import. -/
  importedNames : List Text := []
  /-- The import statements, in order of their first line. -/
  importLines : List ImportLine := []
  /-- The open brackets, the innermost first. -/
  openBrackets : List OpenBracket := []
  /-- The assigned names with the number of the first assignment read, in that order. -/
  assigned : List (Text × Int) := []
deriving DecidableEq, Repr

/-- Puts a number at its place in an increasing list, unless it is there. -/
def insertLevel (n : Nat) : List Nat → List Nat
  | [] => [n]
  | m :: ms => if n < m then n :: m :: ms else if n = m then m :: ms else m :: insertLevel n ms

namespace ScanState

/-- Notes what the indentation of a line is made of and how wide it is. -/
def trackIndent (s : ScanState) (line : Text) : ScanState :=
  let indent := Line.indent line
  let width := Line.indentWidth line
  { s with
    hasTabs := s.hasTabs || indent.contains '\t'
    hasSpaces := s.hasSpaces || indent.contains ' '
    indentLevels := if width = 0 then s.indentLevels else insertLevel width s.indentLevels }

/-- Adds a name at the end of the imported names, unless it is empty or there. -/
def addName (names : List Text) (name : Text) : List Text :=
  if name.isEmpty || names.contains name then names else names ++ [name]

def addImportLine (lines : List ImportLine) (statement : Text) (n : Int) : List ImportLine :=
  if lines.any (·.statement = statement) then
    lines.map fun l => if l.statement = statement then { l with seenAt := n :: l.seenAt } else l
  else lines ++ [⟨statement, [n]⟩]

/-- Notes the names of an import statement and the line where it stands. -/
def recordImports (s : ScanState) (n : Int) (line : Text) : ScanState :=
  match Line.importedNames? line with
  | none => s
  | some names =>
    { s with
      importLines := addImportLine s.importLines line n
      importedNames := names.foldl addName s.importedNames }

/-- Notes the name that the line assigns to; the first assignment stays. -/
def recordAssignment (s : ScanState) (n : Int) (line : Text) : ScanState :=
  match Line.assignedName? line with
  | none => s
  | some name =>
    if s.assigned.any (·.1 = name) then s else { s with assigned := s.assigned ++ [(name, n)] }

end ScanState

end CodeSmell
