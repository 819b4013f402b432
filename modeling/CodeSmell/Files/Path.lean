import CodeSmell.Text.Basic

/-!
# Path names

* `PathName`: a path name taken apart;
* `PathName.parse`, `PathName.text`: reading and writing, without dots and slashes that say nothing;
* `hasNull`: whether a text holds a null character and so can be no path;
* `extension`: the extension of a file name, with its dot.
-/

namespace CodeSmell

/-- A path name: the slashes it starts with, and its components. -/
structure PathName where
  slashes : Nat := 0
  components : List Text := []
deriving DecidableEq, Repr

namespace PathName

def parse (t : Text) : PathName :=
  let lead := (t.takeWhile (· == '/')).length
  -- two slashes are kept, three or more count as one
  { slashes := if lead = 2 then 2 else min lead 1
    components := (t.splitOn '/').filter fun c => !c.isEmpty && c != ['.'] }

/-- The text of a path name; the current directory is a dot. -/
def text (p : PathName) : Text :=
  if p.slashes = 0 ∧ p.components = [] then ['.']
  else List.replicate p.slashes '/' ++ ['/'].intercalate p.components

def absolute (components : List Text) : PathName :=
  { slashes := 1, components }

end PathName

/-- Whether a text holds a null character. No path does. -/
def hasNull (t : Text) : Bool :=
  t.contains '\x00'

def nullMessage : Text := "embedded null byte".toList

/-- The part of a name from its last dot on. -/
def extension (name : Text) : Text :=
  let tail := (name.reverse.takeWhile (· != '.')).reverse
  -- a dot at the end, or at the start, begins no extension
  if tail.isEmpty || name.length ≤ tail.length + 1 then [] else '.' :: tail

end CodeSmell
