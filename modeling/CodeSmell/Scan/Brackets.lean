import CodeSmell.Scan.State

/-!
# Matching brackets

Brackets are matched over the whole text with one stack of open brackets. A closer that does not
belong to the innermost open bracket is stray and leaves the stack as it is.

* `Bracket.opener?`: the opening bracket of a closer;
* `Bracket.read`: what one character does to the stack;
* `Bracket.readLine`: what a line does to it, with the stray closers of the line;
* `Bracket.unclosed`: the findings about the brackets that are still open.
-/

namespace CodeSmell.Bracket

def isOpener (c : Char) : Bool :=
  c == '(' || c == '[' || c == '\x7b'

/-- The opening bracket that a closing bracket belongs to. -/
def opener? : Char → Option Char
  | ')' => some '('
  | ']' => some '['
  | '\x7d' => some '\x7b'
  | _ => none

/-- A stack of open brackets and the closers that have been found stray, last first. -/
structure Matching where
  stack : List OpenBracket
  stray : List Char := []
deriving DecidableEq, Repr

/-- Reads the character `c` at column `column` of line `n`. -/
def read (n : Int) (m : Matching) (c : Char) (column : Nat) : Matching :=
  if isOpener c then { m with stack := ⟨c, n, column⟩ :: m.stack }
  else
    match opener? c with
    | none => m
    | some o =>
      match m.stack with
      | [] => { m with stray := c :: m.stray }
      | top :: below =>
        if top.bracket = o then { m with stack := below } else { m with stray := c :: m.stray }

/-- Reads the characters of a line; columns count from one. -/
def readLine (n : Int) (stack : List OpenBracket) (line : Text) : Matching :=
  (line.zipIdx 1).foldl (fun m p => read n m p.1 p.2) { stack }

def strayFindings (n : Int) (line : Text) (m : Matching) : List Finding :=
  m.stray.reverse.map fun c => (Smell.strayCloser c).onLine n line

/-- The findings about brackets that are never closed, the innermost first. -/
def unclosed (stack : List OpenBracket) : List Finding :=
  stack.map fun b => (Smell.unclosedOpener b.bracket).finding (some b.line) none

end CodeSmell.Bracket
