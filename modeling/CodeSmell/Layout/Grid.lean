import CodeSmell.Layout.Wrap
import CodeSmell.Decimal.Double

/-!
# Tables in a terminal

A `Grid` has columns with headers and rows of texts. It is drawn with a frame; a column is as wide
as its widest entry, and if all together is too wide, the widest columns give way first.

* `Grid.widths`: the widths of the columns;
* `Grid.render`: the table drawn.
-/

namespace CodeSmell.Layout

/-- A column: its header, its width if that is fixed, and whether entries stand at its right end. -/
structure Column where
  header : Text
  width : Option Nat := none
  right : Bool := false
deriving DecidableEq, Repr

/-- A table. Every row has an entry for every column. -/
structure Grid where
  columns : List Column
  rows : List (List Text)
deriving DecidableEq, Repr

/-- The blanks at the two sides of an entry. -/
def cellPadding : Nat := 2

/-- The width of a column in a table, and whether it may be made smaller. -/
structure ColumnWidth where
  width : Nat
  flexible : Bool
deriving DecidableEq, Repr

namespace ColumnWidth

def total (ws : List ColumnWidth) : Nat :=
  ws.foldr (fun w n => w.width + n) 0

/-- The width of the widest flexible column other than those that are `except` wide. -/
def widest (ws : List ColumnWidth) (except : Option Nat) : Nat :=
  ws.foldl (fun m w => if w.flexible ∧ some w.width ≠ except then max m w.width else m) 0

/-- Takes `excess` evenly from the flexible columns that are `widest` wide, from each at most
`most`; `share` of them are left. -/
def take (widest most : Nat) : (share excess : Nat) → List ColumnWidth → List ColumnWidth
  | _, _, [] => []
  | share, excess, w :: ws =>
    if w.flexible ∧ w.width = widest then
      let part := min most (roundDiv excess share)
      { w with width := w.width - part } :: take widest most (share - 1) (excess - part) ws
    else w :: take widest most share excess ws

/-- Narrows the widest flexible columns until all fit into `limit`, at most `rounds` times. -/
def narrow (limit : Nat) : (rounds : Nat) → List ColumnWidth → List ColumnWidth
  | 0, ws => ws
  | rounds + 1, ws =>
    let excess := total ws - limit
    let first := widest ws none
    let second := widest ws (some first)
    if excess = 0 ∨ first = second then ws
    else
      let share := (ws.filter fun w => w.flexible ∧ w.width = first).length
      narrow limit rounds (take first (min excess (first - second)) share excess ws)

end ColumnWidth

/-- The width that a column takes by itself. -/
def Column.natural (limit : Nat) (c : Column) (entries : List Text) : ColumnWidth :=
  match c.width with
  | some n => { width := min limit (n + cellPadding), flexible := false }
  | none =>
    let widest := (c.header :: entries).foldl (fun m e => max m e.cells) 0
    { width := min limit (widest + cellPadding), flexible := true }

namespace Grid

def entries (g : Grid) : List (List Text) :=
  g.columns.zipIdx.map fun (_, k) => g.rows.map fun row => row.getD k []

/-- The widths of the columns in a table that is no wider than the terminal. -/
def widths (g : Grid) : List Nat :=
  let limit := terminalWidth - (g.columns.length + 1)
  let natural := g.columns.zipWith (Column.natural limit) g.entries
  (ColumnWidth.narrow limit (ColumnWidth.total natural - limit) natural).map (·.width)

/-- The lines of an entry, each filled up to the width of its column. -/
def entryLines (width : Nat) (right : Bool) (t : Text) : List Text :=
  let inner := width - cellPadding
  (wrap inner .ellipsis t).map fun line =>
    let shown :=
      if right then (cutLine inner .ellipsis (dropBlanks line)).pushTo inner
      else (cutLine inner .ellipsis line).fitTo inner
    ' ' :: shown ++ [' ']

def drawRow (bar : Char) (columns : List (Column × Nat)) (row : List Text) : Text :=
  let drawn := columns.zipWith (fun c t => (c.2, entryLines c.2 c.1.right t)) row
  let height := drawn.foldl (fun n d => max n d.2.length) 0
  (List.range height).flatMap fun k =>
    bar :: drawn.flatMap (fun d => d.2.getD k (List.replicate d.1 ' ') ++ [bar]) ++ ['\n']

def drawEdge (left line cross right : Char) (widths : List Nat) : Text :=
  left :: [cross].intercalate (widths.map fun n => List.replicate n line) ++ [right, '\n']

/-- The table drawn, every line ended by a line feed. -/
def render (g : Grid) : Text :=
  let widths := g.widths
  let columns := g.columns.zip widths
  drawEdge '┏' '━' '┳' '┓' widths ++ drawRow '┃' columns (g.columns.map (·.header)) ++
    drawEdge '┡' '━' '╇' '┩' widths ++ g.rows.flatMap (drawRow '│' columns) ++
    drawEdge '└' '─' '┴' '┘' widths

end Grid

end CodeSmell.Layout
