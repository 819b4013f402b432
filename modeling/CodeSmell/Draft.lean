import CodeSmell.Score
import CodeSmell.Text.Quoted

/-!
# Drafts of findings

A draft names some fields of a finding, and perhaps fields that findings do not have.

* `Draft`: the fields given;
* `Draft.toFinding`: the finding, fields not given taking their defaults.
-/

namespace CodeSmell

/-- Fields of a finding that is to be made. -/
structure Draft where
  rule : Option Text := none
  severity : Option SeverityTag := none
  message : Option Text := none
  line : Option Int := none
  snippet : Option Text := none
  /-- Fields given that findings do not have. -/
  unknownFields : List Text := []
deriving Repr

inductive DraftError where
  | notASeverity (v : Json)
  | unknownField (name : Text)
  /-- The draft names the finding itself, or what collects it. -/
  | namesReceiver (receiver : Text)
deriving Repr

def receiverName : Text := "self".toList

def DraftError.message : DraftError → Text
  | notASeverity v => v.display ++ " is not a valid Severity".toList
  | unknownField name =>
    "Finding.__init__() got an unexpected keyword argument '".toList ++ name ++ "'".toList
  | namesReceiver receiver =>
    receiver ++ "() got multiple values for argument '".toList ++ receiverName ++ "'".toList

def SeverityTag.resolve (tag : SeverityTag) : Except DraftError Severity :=
  match tag with
  | level s => .ok s
  | raw v =>
    match tag.severity? with
    | some s => .ok s
    | none => .error (.notASeverity v)

def Draft.toFinding (d : Draft) : Except DraftError Finding := do
  let fallback : Finding := {}
  -- a severity that is none is reported before a field that is none
  let severity ← (d.severity.getD (.level fallback.severity)).resolve
  match d.unknownFields with
  | name :: _ =>
    .error (if name = receiverName then .namesReceiver "Finding.__init__".toList else .unknownField name)
  | [] =>
    return {
      rule := d.rule.getD fallback.rule
      severity
      message := d.message.getD fallback.message
      line := d.line
      snippet := d.snippet }

/-- The finding of a draft that is collected. -/
def Draft.pushed (d : Draft) : Except DraftError Finding :=
  if d.unknownFields.contains receiverName then .error (.namesReceiver "FindingSink.push".toList)
  else d.toFinding

end CodeSmell
