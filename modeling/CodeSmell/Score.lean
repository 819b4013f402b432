import CodeSmell.Finding
import CodeSmell.Json.Value

/-!
# Health scores

* `SeverityTag`: what may stand where a severity is expected;
* `Item`: what a score is taken of, a finding or any other value;
* `healthScore`: 100 less a weight for each item, and never below zero.
-/

namespace CodeSmell

/-- A severity, or a value that may be the label of one. -/
inductive SeverityTag where
  | level (s : Severity)
  | raw (v : Json)
deriving Repr

def SeverityTag.severity? : SeverityTag → Option Severity
  | level s => some s
  | raw (.text t) => Severity.ofLabel? t
  | raw _ => none

/-- What a score is taken of: a finding, a mapping with or without a severity, or something else. -/
inductive Item where
  | finding (f : Finding)
  | mapping (severity : Option SeverityTag)
  | other
deriving Repr

def Item.severity? : Item → Option Severity
  | finding f => some f.severity
  | mapping tag => tag.bind SeverityTag.severity?
  | other => none

/-- What a finding of this severity takes off the score. -/
def Severity.weight : Severity → Nat
  | high => 20
  | medium => 10
  | low => 5

def Item.weight (i : Item) : Nat :=
  i.severity?.elim 0 Severity.weight

/-- 100 less the weights of the items, and never below zero. -/
def itemScore (items : List Item) : Nat :=
  100 - items.foldr (fun i total => i.weight + total) 0

def healthScore (findings : List Finding) : Nat :=
  itemScore (findings.map Item.finding)

end CodeSmell
