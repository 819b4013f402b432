import CodeSmell.Line.Statement
import CodeSmell.Text.Words
import CodeSmell.Smell

/-!
# Rules for a single line

Each rule looks at one line and may find a smell. A line usually holds no line feed; where it holds
one, a final line feed does not belong to what a rule sees of the line's end.

* `Line.rules`: the rules in the order in which their findings are reported;
* `Line.findings`: what all rules find on a line.
-/

namespace CodeSmell.Line

open Text

/-! ## Conditions -/

def hasTrailingBlanks (line : Text) : Bool :=
  (chomp line).getLast?.any fun c => c == ' ' || c == '\t'

def headerKeywords : List Text :=
  ["def", "class", "if", "elif", "else", "for", "while", "try", "except", "with"].map String.toList

def isHeader (line : Text) : Bool :=
  headerKeywords.contains (firstWord (body line))

def isComment (line : Text) : Bool :=
  (body line).head? == some '#'

/-- Whether the part before a comment does not end in a colon; a comment line is not asked for one. -/
def lacksColon (line : Text) : Bool :=
  !isComment line && !endsWith (strip (before '#' line)) ':'

/-- Whether nothing but an optional comment is left. -/
def onlyComment : Text → Bool
  | [] => true
  | t@(c :: _) => c == '#' && !(chomp t).contains '\n'

def isBareExcept (line : Text) : Bool :=
  match after? "except".toList (body line) with
  | none => false
  | some rest =>
    match rest.dropWhile isSpace with
    | ':' :: tail => onlyComment (tail.dropWhile isSpace)
    | _ => false

def pendingMarkers : List Text :=
  ["TODO", "FIXME"].map String.toList

def hasPendingMarker (line : Text) : Bool :=
  (words line).any pendingMarkers.contains

def startsWithCall (name t : Text) : Bool :=
  match after? name t with
  | none => false
  | some rest => (rest.dropWhile isSpace).head? == some '('

def runsDynamicCode (line : Text) : Bool :=
  (wordTails line).any fun t => startsWithCall "eval".toList t || startsWithCall "exec".toList t

/-- Whether the text starts with a number, or with a quoted text that ends before a line feed. -/
def startsWithLiteral : Text → Bool
  | [] => false
  | '-' :: t => t.head?.any isDigit
  | c :: t => isDigit c || ((c == '\'' || c == '"') && (before '\n' t).contains c)

def comparesIdentity (line : Text) : Bool :=
  (wordTails line).any fun t =>
    match (after? "is".toList t).bind afterBlanks? with
    | none => false
    | some rest => startsWithLiteral rest

def isTooLong (line : Text) : Bool :=
  let l := chomp line
  Smell.maxLineLength < l.length && !l.contains '\n'

/-- Names that the language itself defines and that are often rebound by mistake. -/
def builtins : List Text :=
  ["list", "dict", "set", "str", "int", "float", "input", "len", "open", "print", "map", "filter",
    "sum", "min", "max"].map String.toList

/-- The smell of rebinding a builtin, when `name` is one. -/
def shadowing (kind : BindingKind) (name : Text) : Option Smell :=
  if builtins.contains name then some (.shadowedBuiltin kind name) else none

/-! ## The rules -/

def smellIf (condition : Text → Bool) (smell : Smell) (line : Text) : Option Smell :=
  if condition line then some smell else none

/-- The rules, in the order of their findings. -/
def rules : List (Text → Option Smell) :=
  [smellIf hasTrailingBlanks .trailingWhitespace,
    smellIf misaligned .misalignedIndent,
    smellIf (fun line => isHeader line && lacksColon line) .missingColon,
    smellIf isBareExcept .bareExcept,
    smellIf hasPendingMarker .pendingMarker,
    smellIf runsDynamicCode .dynamicCode,
    smellIf comparesIdentity .literalIdentity,
    fun line => smellIf isTooLong (.longLine line.length) line,
    fun line => (assignedName? line).bind (shadowing .variable),
    fun line => (definedName? "def".toList ['('] line).bind (shadowing .function),
    fun line => (definedName? "class".toList [':', '('] line).bind (shadowing .classType)]

def findings (n : Int) (line : Text) : List Finding :=
  (rules.filterMap (· line)).map (·.onLine n line)

end CodeSmell.Line
