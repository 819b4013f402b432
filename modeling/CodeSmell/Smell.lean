import CodeSmell.Finding

/-!
# The catalogue of smells

* `Rule`: the names under which smells are reported, each with one severity;
* `Smell`: what can be wrong, with the particulars that its message tells;
* `Smell.onLine`, `Smell.inFile`: the finding about a line, or about the text as a whole.
-/

namespace CodeSmell

inductive Rule where
  | trailingWhitespace
  | indentation
  | missingColon
  | bareExcept
  | pendingMarker
  | dynamicCode
  | literalIdentity
  | longLine
  | shadowedBuiltin
  | unmatchedBracket
  | mixedIndentation
  | indentLevels
  | duplicateImport
  | unusedImport
  | finalNewline
  | deepNesting
  | debugPrints
  | unreachableCode
  | plainText
  | unusedVariable
deriving DecidableEq, Repr

namespace Rule

def name : Rule → Text
  | trailingWhitespace => "Trailing Whitespace".toList
  | indentation => "Indentation".toList
  | missingColon => "Missing Colon".toList
  | bareExcept => "Bare Except".toList
  | pendingMarker => "TODO/FIXME".toList
  | dynamicCode => "Use of eval/exec".toList
  | literalIdentity => "Is Comparison to Literal".toList
  | longLine => "Line Too Long".toList
  | shadowedBuiltin => "Shadowing Builtin".toList
  | unmatchedBracket => "Unmatched Bracket".toList
  | mixedIndentation => "Mixed Tabs/Spaces".toList
  | indentLevels => "Inconsistent Indentation Levels".toList
  | duplicateImport => "Duplicate Import".toList
  | unusedImport => "Possibly Unused Import".toList
  | finalNewline => "Missing Final Newline".toList
  | deepNesting => "Deep Nesting".toList
  | debugPrints => "Debug Prints".toList
  | unreachableCode => "Unreachable Code".toList
  | plainText => "TypeError-like".toList
  | unusedVariable => "Unused Variable".toList

def severity : Rule → Severity
  | missingColon | bareExcept | dynamicCode | unmatchedBracket | mixedIndentation | plainText => .high
  | indentation | literalIdentity | shadowedBuiltin | indentLevels | deepNesting
  | unreachableCode => .medium
  | trailingWhitespace | pendingMarker | longLine | duplicateImport | unusedImport | finalNewline
  | debugPrints | unusedVariable => .low

end Rule

inductive BindingKind where
  | variable
  | function
  | classType
deriving DecidableEq, Repr

def BindingKind.label : BindingKind → Text
  | .variable => "Variable".toList
  | .function => "Function".toList
  | .classType => "Class".toList

/-- What can be wrong with a text. -/
inductive Smell where
  | trailingWhitespace
  | misalignedIndent
  | missingColon
  | bareExcept
  | pendingMarker
  | dynamicCode
  | literalIdentity
  | longLine (length : Nat)
  | shadowedBuiltin (kind : BindingKind) (name : Text)
  | strayCloser (bracket : Char)
  | unclosedOpener (bracket : Char)
  | mixedIndentation
  | manyIndentLevels
  | repeatedImport (times : Nat)
  | unusedImport (name : Text)
  | noFinalNewline
  | deepNesting (levels : Nat)
  | debugPrints (calls : Nat)
  | unreachable (line : Int)
  | plainText
  | unusedVariable (name : Text)
deriving DecidableEq, Repr

namespace Smell

/-- Lines longer than this are reported. -/
def maxLineLength : Nat := 88

def rule : Smell → Rule
  | trailingWhitespace => .trailingWhitespace
  | misalignedIndent => .indentation
  | missingColon => .missingColon
  | bareExcept => .bareExcept
  | pendingMarker => .pendingMarker
  | dynamicCode => .dynamicCode
  | literalIdentity => .literalIdentity
  | longLine _ => .longLine
  | shadowedBuiltin _ _ => .shadowedBuiltin
  | strayCloser _ => .unmatchedBracket
  | unclosedOpener _ => .unmatchedBracket
  | mixedIndentation => .mixedIndentation
  | manyIndentLevels => .indentLevels
  | repeatedImport _ => .duplicateImport
  | unusedImport _ => .unusedImport
  | noFinalNewline => .finalNewline
  | deepNesting _ => .deepNesting
  | debugPrints _ => .debugPrints
  | unreachable _ => .unreachableCode
  | plainText => .plainText
  | unusedVariable _ => .unusedVariable

def message : Smell → Text
  | trailingWhitespace => "Trailing whitespace found.".toList
  | misalignedIndent => "Indentation not a multiple of 4 spaces (PEP8 recommends 4).".toList
  | missingColon => "Block header missing ':' at the end.".toList
  | bareExcept =>
    "Bare 'except:' used. Prefer 'except Exception:' or specific exceptions.".toList
  | pendingMarker =>
    "TODO/FIXME marker found. Complete pending work or remove marker before release.".toList
  | dynamicCode => "Use of eval/exec detected; this can be insecure and error-prone.".toList
  | literalIdentity =>
    "Using 'is' to compare to literal detected; use '==' for value equality.".toList
  | longLine n =>
    "Line length ".toList ++ Text.ofNat n ++ " exceeds recommended ".toList ++
      Text.ofNat maxLineLength ++ " characters.".toList
  | shadowedBuiltin kind name =>
    kind.label ++ " '".toList ++ name ++ "' shadows a Python builtin.".toList
  | strayCloser c => "Unmatched bracket '".toList ++ c :: "'.".toList
  | unclosedOpener c => "Unmatched opening bracket '".toList ++ c :: "'.".toList
  | mixedIndentation => "Mixed use of tabs and spaces for indentation detected.".toList
  | manyIndentLevels =>
    "Many distinct indentation levels detected (may indicate inconsistency).".toList
  | repeatedImport n =>
    "Import appears multiple times (".toList ++ Text.ofNat n ++ ").".toList
  | unusedImport name => "Imported name '".toList ++ name ++ "' may be unused.".toList
  | noFinalNewline => "File does not end with a newline.".toList
  | deepNesting n =>
    "Deep nesting detected (".toList ++ Text.ofNat n ++
      " levels). Consider simplifying or refactoring.".toList
  | debugPrints n =>
    "Many print() calls found (".toList ++ Text.ofNat n ++
      "). Consider removing or using logging.".toList
  | unreachable n =>
    "Code detected after 'return' (possible unreachable code) at line ".toList ++ Text.ofInt n ++
      ".".toList
  | plainText =>
    "No Python syntax detected: input looks like plain text, not Python code.".toList
  | unusedVariable name => "Variable '".toList ++ name ++ "' assigned but never used.".toList

def finding (s : Smell) (line : Option Int) (snippet : Option Text) : Finding :=
  { rule := s.rule.name, severity := s.rule.severity, message := s.message, line, snippet }

/-- The finding of a smell of the line `text`, which has the number `n`. -/
def onLine (s : Smell) (n : Int) (text : Text) : Finding :=
  s.finding (some n) (some text)

/-- The finding of a smell of the text as a whole. -/
def inFile (s : Smell) : Finding :=
  s.finding none none

end Smell

end CodeSmell
