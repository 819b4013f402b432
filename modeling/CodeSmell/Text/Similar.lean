import CodeSmell.Text.Basic

/-!
# Similar texts

Two texts are compared by what they have in common: the longest block of characters that stands in
both, and then, in the same way, what the parts before it and the parts after it have in common.

* `Block`, `longestBlock`: the longest block that stands in two texts;
* `common`: how many characters two texts have in common;
* `isClose`: whether that is at least three fifths of both;
* `closest`: the closest of some names to a word.
-/

namespace CodeSmell.Text

/-- How many characters two texts begin with alike. -/
def commonStart : Text → Text → Nat
  | a :: as, b :: bs => if a = b then commonStart as bs + 1 else 0
  | _, _ => 0

/-- A block that stands in two texts: where it begins in each, and its length. -/
structure Block where
  first : Nat := 0
  second : Nat := 0
  size : Nat := 0
deriving DecidableEq, Repr

/-- The longest block that begins with the text `a`, which is at the place `i`, and somewhere in `b`,
which is at the place `j`; or `best`, if that is no shorter. -/
def longestAt (i : Nat) (a : Text) : (j : Nat) → (b : Text) → (best : Block) → Block
  | _, [], best => best
  | j, c :: b, best =>
    let size := commonStart a (c :: b)
    longestAt i a (j + 1) b (if best.size < size then { first := i, second := j, size } else best)

/-- The longest block of the text `a`, which is at the place `i`, and of `b`; or `best`, if that is no
shorter. -/
def longestFrom (b : Text) : (i : Nat) → (a : Text) → (best : Block) → Block
  | _, [], best => best
  | i, c :: a, best => longestFrom b (i + 1) a (longestAt i (c :: a) 0 b best)

/-- The longest block that stands in both texts; of several, the one that begins first in `a`, and then
in `b`. -/
def longestBlock (a b : Text) : Block :=
  longestFrom b 0 a {}

/-- The characters in common, for a first text of at most `bound` characters. -/
def commonWithin : (bound : Nat) → (a b : Text) → Nat
  | 0, _, _ => 0
  | bound + 1, a, b =>
    let k := longestBlock a b
    if k.size = 0 then 0
    else
      commonWithin bound (a.take k.first) (b.take k.second) + k.size +
        commonWithin bound (a.drop (k.first + k.size)) (b.drop (k.second + k.size))

def common (a b : Text) : Nat :=
  commonWithin a.length a b

/-- Whether two texts have at least three fifths of their characters in common. -/
def isClose (a b : Text) : Bool :=
  3 * (a.length + b.length) ≤ 10 * common a b

/-- Whether `a` is at least as close to a word as `b`; of two that are equally close, the one that comes
later in the order of names goes first. -/
def closerTo (word a b : Text) : Bool :=
  let left := common a word * (b.length + word.length)
  let right := common b word * (a.length + word.length)
  right < left || (left = right && !decide (a < b))

/-- The names that are close to a word, at most three, in the order of names. -/
def closest (word : Text) (names : List Text) : List Text :=
  (((names.filter (isClose · word)).mergeSort (closerTo word)).take 3).mergeSort
    fun a b => !decide (b < a)

end CodeSmell.Text
