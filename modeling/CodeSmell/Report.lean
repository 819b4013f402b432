import CodeSmell.Finding

/-!
# Plain-text reports

* `formatFinding`: the paragraph of one finding;
* `formatReport`: the report of a list of findings.
-/

namespace CodeSmell

def cleanReport : Text :=
  "No issues found.\nYour Python code looks clean! (100/100)\n".toList

/-- The line that quotes an excerpt; an empty excerpt has none. -/
def formatSnippet (snippet : Option Text) : Text :=
  match snippet with
  | none | some [] => []
  | some t => "    ".toList ++ t.strip ++ "\n".toList

def formatFinding (i : Nat) (f : Finding) : Text :=
  Text.ofNat i ++ ". [".toList ++ f.rule ++ "] ".toList ++ f.message ++
    (f.line.elim [] fun n => "  (line ".toList ++ Text.ofInt n ++ ")".toList) ++ "\n".toList ++
    formatSnippet f.snippet ++ "\n".toList

def formatReport (findings : List Finding) : Text :=
  if findings.isEmpty then cleanReport
  else
    "Python Static Analysis Report\n\n".toList ++ "Total issues: ".toList ++
      Text.ofNat findings.length ++ "\n\n".toList ++
      (findings.zipIdx 1).flatMap fun (f, i) => formatFinding i f

end CodeSmell
