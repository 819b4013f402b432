/-!
# Sets of characters as code-point ranges

* `Ranges`: closed ranges of code points in increasing order;
* `Ranges.find?`: the range that holds a code point, by bisection;
* `Ranges.contains`: membership.
-/

namespace CodeSmell.Text

/-- Closed ranges of code points, in increasing order and disjoint. -/
abbrev Ranges := Array (Nat × Nat)

namespace Ranges

/-- Bisection between the indices `lo` and `hi`; `steps` bounds the number of halvings. -/
def findBetween (t : Ranges) (n : Nat) : Nat → Nat → Nat → Option (Nat × Nat)
  | 0, _, _ => none
  | steps + 1, lo, hi =>
    if lo < hi then
      let mid := (lo + hi) / 2
      match t[mid]? with
      | none => none
      | some r =>
        if n < r.1 then findBetween t n steps lo mid
        else if r.2 < n then findBetween t n steps (mid + 1) hi
        else some r
    else none

def find? (t : Ranges) (n : Nat) : Option (Nat × Nat) :=
  findBetween t n t.size 0 t.size

def contains (t : Ranges) (n : Nat) : Bool :=
  (find? t n).isSome

end Ranges

end CodeSmell.Text
