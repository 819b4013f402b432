import CodeSmell.Text.Basic

/-!
# Indentation of a line

* `Line.indent`, `Line.body`: the leading blanks and the rest;
* `Line.indentWidth`: the width of the indentation, a tab counting four columns;
* `Line.misaligned`: an indentation without tabs whose length is not a multiple of four.
-/

namespace CodeSmell.Line

open Text

/-- Columns of a tab, and of one step of indentation. -/
def tabWidth : Nat := 4

/-- The blanks at the start of a line. -/
def indent (line : Text) : Text :=
  line.takeWhile isSpace

/-- The line without the blanks at its start. -/
def body (line : Text) : Text :=
  line.dropWhile isSpace

def indentWidth (line : Text) : Nat :=
  (indent line).length + (tabWidth - 1) * (indent line).count '\t'

/-- Whether the line is indented without tabs, and not by a multiple of four characters. -/
def misaligned (line : Text) : Bool :=
  let i := indent line
  !i.isEmpty && !i.contains '\t' && i.length % tabWidth != 0

end CodeSmell.Line
