import CodeSmell.Text.Basic
import CodeSmell.Text.WidthRanges

/-!
# Widths in terminal cells

A character takes no cell, one or two. A joiner makes the next character part of the one before, and a
selector makes a picture of an emoji that is otherwise text.

* `Text.cells`: how many cells a text takes in a terminal;
* `Text.Cluster`, `Text.clusters`: the characters of a text that cannot be parted from each other;
* `Text.fitTo`: a text cut or filled up to a number of cells;
* `Text.pieces`: a text cut into pieces that are no wider than a line.
-/

namespace CodeSmell.Text

/-- The character that joins the next one to the one before. -/
def joiner : Char := '\u200d'

/-- The character that makes the one before it a picture. -/
def pictureSelector : Char := '\ufe0f'

/-- The cells of a character. Control characters take none. -/
def cellsOf (c : Char) : Nat :=
  let n := c.toNat
  if n < 160 then if n < 32 || 127 ≤ n then 0 else 1
  else if noCellRanges.contains n then 0
  else if twoCellRanges.contains n then 2
  else 1

/-- Whether a character is wider as a picture. -/
def widens (c : Char) : Bool :=
  pictureRanges.contains c.toNat

/-! ## Measuring -/

/-- The cells counted so far, the last character that took some, unless it has been looked at for a
picture, and whether the next character is joined. -/
structure Measure where
  cells : Nat := 0
  last : Option Char := none
  joined : Bool := false
deriving DecidableEq, Repr

def Measure.add (m : Measure) (c : Char) : Measure :=
  if m.joined then { m with joined := false }
  else if c = joiner then { m with joined := true }
  else if c = pictureSelector then
    { m with cells := if m.last.any widens then m.cells + 1 else m.cells, last := none }
  else if cellsOf c = 0 then m
  else { m with cells := m.cells + cellsOf c, last := some c }

def cells (t : Text) : Nat :=
  (t.foldl Measure.add {}).cells

/-! ## Clusters -/

/-- Characters that stay together, and the cells they take. -/
structure Cluster where
  chars : Text
  cells : Nat
deriving DecidableEq, Repr

/-- Clusters in the making, the last one first and each in reverse; the last character that took cells,
unless it has become a picture; and whether the next character is joined. -/
structure Clustering where
  clusters : List Cluster := []
  last : Option Char := none
  joined : Bool := false
deriving DecidableEq, Repr

namespace Clustering

/-- Adds a character to the last cluster, or makes it a cluster if it is the first. -/
def attach (s : Clustering) (c : Char) (more : Nat) : Clustering :=
  match s.clusters with
  | [] => { s with clusters := [{ chars := [c], cells := 0 }] }
  | k :: ks => { s with clusters := { chars := c :: k.chars, cells := k.cells + more } :: ks }

def add (s : Clustering) (c : Char) : Clustering :=
  if s.joined then { s.attach c 0 with joined := false }
  -- at the beginning of the text there is nothing to join
  else if c = joiner then { s.attach c 0 with joined := !s.clusters.isEmpty }
  else if c = pictureSelector then
    if s.last.any widens then { s.attach c 1 with last := none } else s.attach c 0
  -- what takes no cell stays with the character before it
  else if cellsOf c = 0 then s.attach c 0
  else { s with clusters := { chars := [c], cells := cellsOf c } :: s.clusters, last := some c }

end Clustering

def clusters (t : Text) : List Cluster :=
  ((t.foldl Clustering.add {}).clusters.map fun k => { k with chars := k.chars.reverse }).reverse

/-! ## Cutting and filling -/

/-- The beginning of a text that takes `n` cells. -/
def takeCells (n : Nat) : List Cluster → Text
  | [] => []
  -- a blank stands for half of a wide cluster
  | k :: ks => if k.cells ≤ n then k.chars ++ takeCells (n - k.cells) ks else List.replicate n ' '

/-- The text cut or filled up with blanks to `n` cells. -/
def fitTo (n : Nat) (t : Text) : Text :=
  if n = 0 then []
  else if t.cells ≤ n then t ++ List.replicate (n - t.cells) ' '
  else takeCells n t.clusters

/-- The text pushed to the right end of `n` cells. -/
def pushTo (n : Nat) (t : Text) : Text :=
  List.replicate (n - t.cells) ' ' ++ t

/-- Adds a cluster to the pieces cut so far, the last of which comes first and has the given number of
cells. -/
def addToPieces (width : Nat) (s : Nat × List (List Cluster)) (k : Cluster) :
    Nat × List (List Cluster) :=
  if width < s.1 + k.cells then (k.cells, [k] :: s.2)
  else
    match s.2 with
    | [] => (s.1 + k.cells, [[k]])
    | p :: ps => (s.1 + k.cells, (k :: p) :: ps)

/-- The text cut into pieces, each as long as fits into `width` cells. -/
def pieces (width : Nat) (t : Text) : List Text :=
  ((t.clusters.foldl (addToPieces width) (0, [[]])).2.map fun p =>
    p.reverse.flatMap Cluster.chars).reverse

end CodeSmell.Text
