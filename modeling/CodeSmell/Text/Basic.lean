import CodeSmell.Text.Class

/-!
# Texts

A `Text` is a list of characters; lengths and columns count characters.

* `Text.strip`, `Text.chomp`: trimming blanks, dropping one final line feed;
* `Text.splitOn`: the parts between separators;
* `Text.lines`: the lines of a text, one carriage return before each line feed left out;
* `Text.after?`: what follows a given beginning;
* `Text.isIdentifier`: names.
-/

namespace CodeSmell

abbrev Text := List Char

namespace Text

def ofNat (n : Nat) : Text :=
  Nat.toDigits 10 n

def ofInt : Int → Text
  | .ofNat n => ofNat n
  | .negSucc n => '-' :: ofNat (n + 1)

def strip (t : Text) : Text :=
  ((t.dropWhile isSpace).reverse.dropWhile isSpace).reverse

def dropFinal (c : Char) (t : Text) : Text :=
  if t.getLast? = some c then t.dropLast else t

/-- The text without one final line feed. -/
def chomp (t : Text) : Text :=
  dropFinal '\n' t

def endsWith (t : Text) (c : Char) : Bool :=
  t.getLast? == some c

/-- The text before the first `c`, or all of it. -/
def before (c : Char) (t : Text) : Text :=
  t.takeWhile (· != c)

/-- `t` without the beginning `w`, if it begins so. -/
def after? : (w t : Text) → Option Text
  | [], t => some t
  | _ :: _, [] => none
  | a :: w, b :: t => if a = b then after? w t else none

def consFirst (c : Char) : List Text → List Text
  | [] => [[c]]
  | p :: ps => (c :: p) :: ps

/-- The parts of `t` between the separators `sep`; there is always at least one part. -/
def splitOn (sep : Char) (t : Text) : List Text :=
  t.foldr (fun c parts => if c = sep then [] :: parts else consFirst c parts) [[]]

/-- The lines of a text: its parts between line feeds, each without one final carriage return. -/
def lines (t : Text) : List Text :=
  (t.splitOn '\n').map (dropFinal '\r')

/-- A name: a start character followed by part characters. -/
def isIdentifier : Text → Bool
  | [] => false
  | c :: cs => isIdentifierStart c && cs.all isIdentifierPart

end Text

end CodeSmell
