import CodeSmell.Scan.Analysis
import CodeSmell.Draft
import CodeSmell.Report

/-!
# Sessions

A session holds a text with its lines, a scan state and findings, and takes single operations of a scan in any
order.

* `SessionOp`: the operations;
* `Session.step`: what an operation does.
-/

namespace CodeSmell

inductive SessionOp where
  | applyRules (n : Int) (line : Text)
  | applyRule (index : Int) (n : Int) (line : Text)
  | trackIndent (line : Text)
  | recordImports (n : Int) (line : Text)
  | recordAssignment (n : Int) (line : Text)
  | readBrackets (n : Int) (line : Text)
  | runCheck (c : Check)
  | push (d : Draft)
deriving Repr

inductive SessionError where
  | draft (e : DraftError)
  | scan (e : ScanError)
deriving Repr

def SessionError.message : SessionError → Text
  | draft e => e.message
  | scan e => e.message

/-- A text and its lines, the state of a scan and the findings so far. -/
structure Session where
  text : Text
  lines : List Text := text.lines
  state : ScanState := {}
  findings : List Finding := []
deriving Repr

/-- What an operation has come to: the state after it, the findings it added, and an error that
stopped it. -/
structure StepOutcome where
  state : ScanState
  found : List Finding := []
  error : Option SessionError := none
deriving Repr

namespace Session

def outcome (s : Session) : SessionOp → StepOutcome
  | .applyRules n line => { state := s.state, found := Line.findings n line }
  | .applyRule i n line =>
    match itemAt Line.rules i with
    | .ok rule => { state := s.state, found := ((rule line).map (·.onLine n line)).toList }
    | .error e => { state := s.state, error := some (.scan e) }
  | .trackIndent line => { state := s.state.trackIndent line }
  | .recordImports n line => { state := s.state.recordImports n line }
  | .recordAssignment n line => { state := s.state.recordAssignment n line }
  | .readBrackets n line =>
    let m := Bracket.readLine n s.state.openBrackets line
    { state := { s.state with openBrackets := m.stack }
      found := Bracket.strayFindings n line m }
  | .runCheck c =>
    { state := c.after s.state
      found := c.findingsIn s.text s.lines s.state
      error := (c.errorIn? s.text s.lines s.state).map .scan }
  | .push d =>
    match d.pushed with
    | .ok f => { state := s.state, found := [f] }
    | .error e => { state := s.state, error := some (.draft e) }

def step (s : Session) (op : SessionOp) : Session :=
  let o := s.outcome op
  { s with state := o.state, findings := s.findings ++ o.found }

end Session

end CodeSmell
