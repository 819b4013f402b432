import CodeSmell.Scan.Checks

/-!
# The analysis of a text

* `ScanState.readLine`: one line, with what it finds;
* `scanLines`: the lines of a text in order;
* `analyze`: the findings of the lines, then those of the checks;
* `trace`: the same, step by step.
-/

namespace CodeSmell

/-- Reads a line: the state after it and the findings about it. -/
def ScanState.readLine (s : ScanState) (n : Int) (line : Text) : ScanState × List Finding :=
  let m := Bracket.readLine n s.openBrackets line
  let s := ((s.trackIndent line).recordImports n line).recordAssignment n line
  ({ s with openBrackets := m.stack }, Line.findings n line ++ Bracket.strayFindings n line m)

/-- A scan in progress: the state and the findings so far. -/
structure Scan where
  state : ScanState := {}
  findings : Array Finding := #[]

namespace Scan

def read (s : Scan) (l : Text × Nat) : Scan :=
  let (state, found) := s.state.readLine l.2 l.1
  { state, findings := s.findings ++ found }

def check (t : Text) (s : Scan) (c : Check) : Scan :=
  { state := c.after s.state, findings := s.findings ++ c.findings t s.state }

end Scan

/-- Reads lines that are numbered from one. -/
def scanLines (lines : List Text) : Scan :=
  (lines.zipIdx 1).foldl Scan.read {}

def analyze (t : Text) : List Finding :=
  (Check.all.foldl (Scan.check t) (scanLines t.lines)).findings.toList

/-! ## Step by step -/

inductive StepLabel where
  | line (n : Nat)
  | check (c : Check)
deriving DecidableEq, Repr

/-- What one step adds and the state after it. -/
structure TraceStep where
  label : StepLabel
  found : List Finding
  state : ScanState
deriving DecidableEq, Repr

/-- One line of a trace: the state and the steps so far, last first. -/
def traceLine (s : ScanState × List TraceStep) (l : Text × Nat) : ScanState × List TraceStep :=
  let (state, found) := s.1.readLine l.2 l.1
  (state, ⟨.line l.2, found, state⟩ :: s.2)

/-- One check of a trace. -/
def traceCheck (t : Text) (s : ScanState × List TraceStep) (c : Check) :
    ScanState × List TraceStep :=
  let state := c.after s.1
  (state, ⟨.check c, c.findings t s.1, state⟩ :: s.2)

def trace (t : Text) : List TraceStep :=
  (Check.all.foldl (traceCheck t) ((t.lines.zipIdx 1).foldl traceLine ({}, []))).2.reverse

end CodeSmell
