import CodeSmell.Line.Indent

/-!
# Statements that bind names

What a line says when it is read as an assignment, a definition or an import.

* `Line.assignedName?`: the name before a single `=`;
* `Line.definedName?`: the name that a `def` or `class` line introduces;
* `Line.importedNames?`: the names of an import statement. An alias is not a name of the statement,
  and a plain import names the first part of a dotted module.
-/

namespace CodeSmell.Line

open Text

def afterBlanks? : Text → Option Text
  | [] => none
  | c :: cs => if isSpace c then some (cs.dropWhile isSpace) else none

/-- A name that starts with an ASCII letter or an underscore, and the rest. -/
def leadingName? : Text → Option (Text × Text)
  | [] => none
  | c :: cs =>
    if isAsciiLetter c || c == '_' then some (c :: cs.takeWhile isWord, cs.dropWhile isWord)
    else none

/-- Whether the text starts with a single `=`. -/
def startsWithAssign : Text → Bool
  | '=' :: '=' :: _ => false
  | '=' :: _ => true
  | _ => false

def assignedName? (line : Text) : Option Text := do
  let (name, rest) ← leadingName? (body line)
  if startsWithAssign (rest.dropWhile isSpace) then some name else none

/-- The name that follows `keyword` on the line, if one of `closers` comes after it. -/
def definedName? (keyword : Text) (closers : List Char) (line : Text) : Option Text := do
  let rest ← after? keyword (body line)
  let (name, rest) ← leadingName? (← afterBlanks? rest)
  if (rest.dropWhile isSpace).head?.any closers.contains then some name else none

/-! ## Imports -/

def isModuleChar (c : Char) : Bool :=
  isAsciiLetter c || isAsciiDigit c || c == '_' || c == '.'

/-- The clause after the keyword `import`: at least one blank, then the rest up to a line feed. A rest
of blanks alone is an empty clause, and is there when one of the blanks after the first is not a
line feed. -/
def importClause? (rest : Text) : Option Text :=
  let blanks := rest.takeWhile isSpace
  let clause := rest.dropWhile isSpace
  if blanks.isEmpty then none
  else if clause.isEmpty then if blanks.tail.any (· != '\n') then some [] else none
  else some (before '\n' clause)

def fromImport? (line : Text) : Option Text := do
  let rest ← afterBlanks? (← after? "from".toList (body line))
  if (rest.takeWhile isModuleChar).isEmpty then none
  else
    let rest ← afterBlanks? (rest.dropWhile isModuleChar)
    importClause? (← after? "import".toList rest)

def plainImport? (line : Text) : Option Text := do
  importClause? (← after? "import".toList (body line))

/-- Whether `as` and a blank follow, after any blanks. -/
def aliasFollows (t : Text) : Bool :=
  match after? "as".toList (t.dropWhile isSpace) with
  | some (c :: _) => isSpace c
  | _ => false

/-- `beforeAlias` of the rest of an item, the characters in `seen` having been read, last first. -/
def beforeAliasFrom (seen : Text) : Text → Text
  | [] => seen.reverse
  | c :: cs =>
    if isSpace c && aliasFollows cs then seen.reverse else beforeAliasFrom (c :: seen) cs

/-- An item of an import clause without its alias. -/
def beforeAlias (item : Text) : Text :=
  beforeAliasFrom [] item

/-- The items of an import clause without comment, aliases and outer blanks. -/
def importItems (clause : Text) : List Text :=
  (splitOn ',' (strip (before '#' clause))).map fun item => beforeAlias (strip item)

/-- The names of an import statement, empty ones included. -/
def importedNames? (line : Text) : Option (List Text) :=
  match fromImport? line with
  | some clause => some (importItems clause)
  | none => (plainImport? line).map fun clause => (importItems clause).map (before '.')

end CodeSmell.Line
