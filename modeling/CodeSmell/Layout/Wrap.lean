import CodeSmell.Text.Width

/-!
# Wrapping text

A line is broken before a word that does not fit on it; a word keeps the blanks that follow it.

* `Layout.words`: the words of a line with their blanks;
* `Layout.Overflow`: what becomes of a word that is wider than a line;
* `Layout.breakLine`: the lines that a line of text is broken into;
* `Layout.paragraph`: text as it stands in a terminal.
-/

namespace CodeSmell.Layout

def terminalWidth : Nat := 80

/-- Adds a character to the words read so far, both in reverse. A word begins where something other
than a blank follows a blank; blanks at the beginning belong to the first word. -/
def addToWords (words : List Text) (c : Char) : List Text :=
  match words with
  | [] => [[c]]
  | w :: ws =>
    if !Text.isSpace c && w.head?.any Text.isSpace && !w.all Text.isSpace then [c] :: w :: ws
    else (c :: w) :: ws

/-- The words of a line, each with the blanks after it, the first also with those before it. -/
def words (t : Text) : List Text :=
  ((t.foldl addToWords []).map List.reverse).reverse

def dropBlanks (t : Text) : Text :=
  (t.reverse.dropWhile Text.isSpace).reverse

/-- What becomes of a word that is wider than a line: it is folded onto several lines, or cut. -/
inductive Overflow where
  | fold
  | ellipsis
deriving DecidableEq, Repr

/-- Lines in the making: the finished ones in reverse, the words of the last one in reverse, and the
cells these take. -/
structure Lines where
  finished : List Text := []
  current : List Text := []
  used : Nat := 0
deriving DecidableEq, Repr

namespace Lines

def last (l : Lines) : Text := l.current.reverse.flatten

def add (l : Lines) (w : Text) : Lines :=
  { l with current := w :: l.current, used := l.used + w.cells }

/-- Puts a word on a new line, unless nothing stands on the last one. -/
def startLine (l : Lines) (w : Text) : Lines :=
  if l.current.isEmpty then l.add w
  else { finished := l.last :: l.finished, current := [w], used := w.cells }

def place (width : Nat) (overflow : Overflow) (l : Lines) (w : Text) : Lines :=
  if l.used + (dropBlanks w).cells ≤ width then l.add w
  else if (dropBlanks w).cells ≤ width ∨ overflow = .ellipsis then l.startLine w
  else (w.pieces width).foldl startLine l

def all (l : Lines) : List Text := (l.last :: l.finished).reverse

end Lines

def breakLine (width : Nat) (overflow : Overflow) (t : Text) : List Text :=
  ((words t).foldl (Lines.place width overflow) {}).all

/-- Drops blanks at the end of a line that has more than `width` characters, as far as needed. -/
def trimLine (width : Nat) (t : Text) : Text :=
  t.take (max width (dropBlanks t).length)

/-- A line that is too wide, cut to `width` cells; an ellipsis shows the cut. -/
def cutLine (width : Nat) (overflow : Overflow) (t : Text) : Text :=
  if t.cells ≤ width then t
  else
    match overflow with
    | .fold => t.fitTo width
    | .ellipsis => t.fitTo (width - 1) ++ ['…']

/-- Writes blanks for the tabs between parts of a line. A part begins after `used` cells; a tab is a blank,
and as many more as are needed up to a multiple of eight cells. -/
def fillTabs (used : Nat) : (parts : List Text) → List Text
  | [] => []
  | [last] => [last]
  | part :: rest =>
    let shown := part ++ [' ']
    let used := used + shown.cells
    let fill := (8 - used % 8) % 8
    shown :: List.replicate fill ' ' :: fillTabs (used + fill) rest

def expandTabs (t : Text) : Text :=
  (fillTabs 0 (t.splitOn '\t')).flatten

/-- The text wrapped at `width` cells. -/
def wrap (width : Nat) (overflow : Overflow) (t : Text) : List Text :=
  (t.splitOn '\n').flatMap fun line =>
    (breakLine width overflow (expandTabs line)).map (trimLine width)

/-- Characters that a terminal does not get: bell, backspace, vertical tab, form feed and carriage
return. -/
def isTerminalControl (c : Char) : Bool :=
  c.toNat = 7 || c.toNat = 8 || c.toNat = 11 || c.toNat = 12 || c.toNat = 13

/-- The text as it stands in a terminal, with a line feed after every line. -/
def paragraph (t : Text) : Text :=
  (wrap terminalWidth .fold (t.filter (!isTerminalControl ·))).flatMap fun line =>
    cutLine terminalWidth .fold line ++ ['\n']

end CodeSmell.Layout
