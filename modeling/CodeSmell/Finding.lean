import CodeSmell.Text.Basic

/-!
# Findings

* `Severity`: three levels, with the label each is written as;
* `Finding`: one remark on a text, with the rule that made it, its message and where it stands.
-/

namespace CodeSmell

inductive Severity where
  | low
  | medium
  | high
deriving DecidableEq, Repr

namespace Severity

def label : Severity → Text
  | low => "low".toList
  | medium => "medium".toList
  | high => "high".toList

def ofLabel? (t : Text) : Option Severity :=
  [low, medium, high].find? (·.label = t)

end Severity

/-- A remark on a text. A finding about the text as a whole has no line. -/
structure Finding where
  rule : Text := "Unknown".toList
  severity : Severity := .low
  message : Text := []
  line : Option Int := none
  snippet : Option Text := none
deriving DecidableEq, Repr

namespace Finding

def fileScoped (f : Finding) : Bool :=
  f.line.isNone

end Finding

end CodeSmell
