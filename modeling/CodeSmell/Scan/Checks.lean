import CodeSmell.Scan.Brackets
import CodeSmell.Line.Rules

/-!
# Checks of the whole text

The checks that follow the reading of the lines.

* `Nesting.deepestOf`: how deep the indentation goes, step by step;
* `unreachableLines`: the first significant line after each `return`;
* `readsAsProse`, `proseExcerpt`: texts that hold no code;
* `Check`: the checks, and `Check.all`, their order;
* `Check.findingsIn`, `Check.errorIn?`, `Check.after`: what a check finds, what stops it, and what it does to
  the state;
* `Check.findings`, `Check.error?`: the same for a text with its own lines.
-/

namespace CodeSmell

open Text

/-! ## Limits -/

/-- More distinct indentation widths than this are reported. -/
def maxIndentLevels : Nat := 6

/-- Deeper nesting than this is reported. -/
def maxNesting : Nat := 4

/-- More calls of `print` than this are reported. -/
def maxPrintCalls : Nat := 10

/-! ## Nesting -/

/-- The nesting estimate after some lines: the current depth, the greatest so far, and the width of
the last line. -/
structure Nesting where
  depth : Nat := 0
  deepest : Nat := 0
  width : Nat := 0
deriving DecidableEq, Repr

namespace Nesting

/-- A wider line goes one level in, a narrower one goes one level out. -/
def step (s : Nesting) (width : Nat) : Nesting :=
  let depth := if s.width < width then s.depth + 1 else if width < s.width then s.depth - 1 else s.depth
  { depth, deepest := max s.deepest depth, width }

/-- The greatest depth reached over lines with these indentation widths. -/
def deepestOf (widths : List Nat) : Nat :=
  (widths.foldl step {}).deepest

end Nesting

/-! ## Code after a return -/

def isReturn (stripped : Text) : Bool :=
  firstWord stripped = "return".toList

/-- Whether the stripped line holds code. -/
def isSignificant : Text → Bool
  | [] => false
  | c :: _ => c != '#'

/-- One line of the search for code after a return: whether a return was the last significant line,
and the lines found so far, last first. -/
def unreachableStep (s : Bool × List (Text × Nat)) (l : Text × Nat) : Bool × List (Text × Nat) :=
  let stripped := strip l.1
  if isReturn stripped then (true, s.2)
  else if s.1 && isSignificant stripped then (false, l :: s.2)
  else s

/-- The first significant line after each `return`, with its number. -/
def unreachableLines (lines : List Text) : List (Text × Nat) :=
  ((lines.zipIdx 1).foldl unreachableStep (false, [])).2.reverse

/-! ## Plain text -/

/-- Words that code has and prose is taken not to have. -/
def codeKeywords : List Text :=
  ["def", "class", "import", "from", "if", "for", "while", "return"].map String.toList

def hasCodeToken (t : Text) : Bool :=
  t.contains ':' || (words t).any codeKeywords.contains

def isProseChar (c : Char) : Bool :=
  isAsciiLetter c || isAsciiDigit c || isSpace c || ".,'\":;!?()-".toList.contains c

/-- Whether the text has a character other than blanks, and reads like prose. -/
def readsAsProse (t : Text) : Bool :=
  !hasCodeToken t && !(strip t).isEmpty && (strip t).all isProseChar

/-- Words that an excerpt of prose shows: three letters or more. -/
def isExcerptWord (w : Text) : Bool :=
  3 ≤ w.length && w.all fun c => isAsciiLetter c || c == '_'

/-- The first fifty words of prose, cut to 120 characters. -/
def proseExcerpt (t : Text) : Option Text :=
  let excerpt := ([' '].intercalate (((words t).filter isExcerptWord).take 50)).take 120
  if excerpt.isEmpty then none else some excerpt

/-! ## Calls of `print` -/

def printCalls (t : Text) : Nat :=
  (wordTails t).countP (Line.startsWithCall "print".toList)

/-! ## Unused names -/

/-- Whether `name` is a name that stands at most once in the text. -/
def isUnused (t name : Text) : Bool :=
  (occurrences? name t).any (· ≤ 1)

/-- Why there is nothing at an index. -/
inductive ScanError where
  | indexOutOfRange
  | indexTooLarge
deriving DecidableEq, Repr

def ScanError.message : ScanError → Text
  | .indexOutOfRange => "list index out of range".toList
  | .indexTooLarge => "cannot fit 'int' into an index-sized integer".toList

/-- The item at the index `i`. Indices below zero go back from the end. -/
def itemAt? {α : Type} (items : List α) (i : Int) : Option α :=
  let i := if i < 0 then i + items.length else i
  if i < 0 then none else items[i.toNat]?

/-- Whether a number has 64 bits and a sign. -/
def isIndexSized (i : Int) : Bool :=
  -9223372036854775808 ≤ i && i < 9223372036854775808

def itemAt {α : Type} (items : List α) (i : Int) : Except ScanError α :=
  match itemAt? items i with
  | some item => .ok item
  | none => .error (if isIndexSized i then .indexOutOfRange else .indexTooLarge)

/-- The line with the number `n`. Lines count from one; zero is the last line, and numbers below it go
back from there. -/
def lineAt (lines : List Text) (n : Int) : Except ScanError Text :=
  itemAt lines (n - 1)

/-- Findings, last first, or the findings up to an error. -/
def unusedVariablesFrom (t : Text) (lines : List Text) (found : List Finding) :
    List (Text × Int) → List Finding × Option ScanError
  | [] => (found.reverse, none)
  | (name, n) :: rest =>
    if isUnused t name then
      match lineAt lines n with
      | .error e => (found.reverse, some e)
      | .ok line =>
        unusedVariablesFrom t lines ((Smell.unusedVariable name).onLine n line :: found) rest
    else unusedVariablesFrom t lines found rest

/-- The findings about assigned names that stand only once in the text. -/
def unusedVariables (t : Text) (lines : List Text) (assigned : List (Text × Int)) :
    List Finding × Option ScanError :=
  unusedVariablesFrom t lines [] assigned

/-! ## The checks -/

inductive Check where
  | mixedIndentation
  | indentLevels
  | duplicateImports
  | unusedImports
  | finalNewline
  | unclosedBrackets
  | deepNesting
  | debugPrints
  | unreachableCode
  | plainText
  | unusedVariables
deriving DecidableEq, Repr

namespace Check

/-- The checks in the order in which they run. -/
def all : List Check :=
  [mixedIndentation, indentLevels, duplicateImports, unusedImports, finalNewline, unclosedBrackets,
    deepNesting, debugPrints, unreachableCode, plainText, unusedVariables]

/-- What a check finds in the text `t`, which has been taken apart into `lines`, after a scan that ended in
the state `s`. -/
def findingsIn (t : Text) (lines : List Text) (s : ScanState) : Check → List Finding
  | mixedIndentation => if s.hasTabs && s.hasSpaces then [Smell.mixedIndentation.inFile] else []
  | indentLevels =>
    if maxIndentLevels < s.indentLevels.length then [Smell.manyIndentLevels.inFile] else []
  | duplicateImports =>
    s.importLines.filterMap fun l =>
      match l.lineNumbers with
      | first :: _ :: rest =>
        some ((Smell.repeatedImport (rest.length + 2)).onLine first l.statement)
      | _ => none
  | unusedImports =>
    (s.importedNames.filter (isUnused t)).map fun name => (Smell.unusedImport name).inFile
  | finalNewline => if !t.isEmpty && !endsWith t '\n' then [Smell.noFinalNewline.inFile] else []
  | unclosedBrackets => Bracket.unclosed s.openBrackets
  | deepNesting =>
    let levels := Nesting.deepestOf (lines.map Line.indentWidth)
    if maxNesting < levels then [(Smell.deepNesting levels).inFile] else []
  | debugPrints =>
    let calls := printCalls t
    if maxPrintCalls < calls then [(Smell.debugPrints calls).inFile] else []
  | unreachableCode =>
    (unreachableLines lines).map fun (line, n) => (Smell.unreachable n).onLine n line
  | plainText => if readsAsProse t then [Smell.plainText.finding none (proseExcerpt t)] else []
  | unusedVariables => (CodeSmell.unusedVariables t lines s.assigned).1

/-- The error that stops a check, if one does. -/
def errorIn? (t : Text) (lines : List Text) (s : ScanState) : Check → Option ScanError
  | unusedVariables => (CodeSmell.unusedVariables t lines s.assigned).2
  | _ => none

def findings (t : Text) (s : ScanState) (c : Check) : List Finding :=
  c.findingsIn t t.lines s

def error? (t : Text) (s : ScanState) (c : Check) : Option ScanError :=
  c.errorIn? t t.lines s

def after (s : ScanState) : Check → ScanState
  -- brackets are taken off the stack as they are reported
  | unclosedBrackets => { s with openBrackets := [] }
  | _ => s

end Check

end CodeSmell
