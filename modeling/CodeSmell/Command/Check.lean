import CodeSmell.Command.Outcome
import CodeSmell.Json.Writer
import CodeSmell.Layout.Grid
import CodeSmell.Layout.Markup

/-!
# Checking files

* `showInspection`: an inspection as text with tables;
* `inspectAll`: the inspections of all paths;
* `failing`: the reviews with too low a score;
* `runCheck`: the command.
-/

namespace CodeSmell

open Layout

def findingColumns : List Column := [
  { header := "Severity".toList, width := some 8 },
  { header := "Line".toList, right := true },
  { header := "Rule".toList },
  { header := "Message".toList }]

def Finding.row (f : Finding) : List Text :=
  [f.severity.label, f.line.elim dash Text.ofInt, f.rule, f.message]

def showReview (r : FileReview) : Text :=
  paragraph (Markup.plain (Markup.bold r.path)) ++
    (if r.findings.isEmpty then "No issues found.\n".toList
      else Grid.render { columns := findingColumns, rows := r.findings.map Finding.row }) ++
    "Total issues: ".toList ++ Text.ofNat r.findings.length ++ "  Health score: ".toList ++
    Text.ofInt r.score ++ "/100\n\n".toList

def showInspection (i : Inspection) : Text :=
  i.files.flatMap showReview ++
    if i.skipped = 0 then [] else Text.ofNat i.skipped ++ " file(s) skipped\n".toList

def inspectInput (t : Text) : Inspection :=
  { root := inputLabel, files := [reviewText inputLabel t], scanned := 1 }

def readInput (input : Bytes) : Except Failure Text :=
  ((Utf8.strict input).mapError .input).map Text.unifyNewlines

/-- The inspections of all paths, the first of which takes `elapsed 0` seconds. -/
def inspectAll (i : Inspector) (files : FileTree) :
    (elapsed : Nat → Float) → (input : Bytes) → (paths : List Text) → Except Failure (List Inspection)
  | _, _, [] => .ok []
  | elapsed, input, p :: ps =>
    if p = dash then do
      -- the first dash takes all of the standard input
      let t ← readInput input
      let rest ← inspectAll i files (fun k => elapsed (k + 1)) [] ps
      return inspectInput t :: rest
    else do
      let inspection ← (i.inspectPath files p (elapsed 0)).mapError .inspect
      let rest ← inspectAll i files (fun k => elapsed (k + 1)) input ps
      return inspection :: rest

/-- The notices on the way through all paths, as far as it goes. -/
def allNotices (i : Inspector) (files : FileTree) : (input : Bytes) → (paths : List Text) → List Notice
  | _, [] => []
  | input, p :: ps =>
    if p = dash then
      match readInput input with
      | .error _ => []
      | .ok t => textNotices t ++ allNotices i files [] ps
    else
      match Inspector.place files p with
      | .error _ => []
      | .ok _ => i.pathNotices files p ++ allNotices i files input ps

def inspectionsJson (inspections : List Inspection) : Json :=
  .list (inspections.map Inspection.toJson)

def showAll (yaml : Json → Text) (format : OutputFormat) (inspections : List Inspection) : Text :=
  match format with
  | .text => inspections.flatMap showInspection
  | .json => (inspectionsJson inspections).renderIndented.toList ++ ['\n']
  | .yaml => yaml (inspectionsJson inspections) ++ ['\n']

/-- The data that a format shows, where it shows data. -/
def documentOf (format : OutputFormat) (inspections : List Inspection) : Option Json :=
  if format = .text then none else some (inspectionsJson inspections)

/-- The reviews that score below a threshold. -/
def failing (threshold : Nat) (inspections : List Inspection) : List FileReview :=
  (inspections.flatMap (·.files)).filter (·.score < threshold)

def failingText (threshold : Nat) (reviews : List FileReview) : Text :=
  if reviews.isEmpty then []
  else
    '\n' :: Text.ofNat reviews.length ++ " file(s) scored below ".toList ++ Text.ofNat threshold ++ ['\n']

def checkOutcome (yaml : Json → Text) (o : CheckOptions) (notices : Text) (inspections : List Inspection) :
    Outcome :=
  let low := failing o.failUnder inspections
  { output := showAll yaml o.format inspections
    messages := notices ++ failingText o.failUnder low
    exitCode := if low.isEmpty then 0 else 1
    document := documentOf o.format inspections }

def runCheck (s : Surroundings) (verbose : Bool) (o : CheckOptions) : Outcome :=
  match Settings.load s.environment with
  | .error fault => .failed (.settings fault) []
  | .ok settings =>
    let inspector : Inspector := { settings, exclude := o.exclude }
    let notices := noticeLines s.clock verbose (allNotices inspector s.files s.input o.paths)
    match inspectAll inspector s.files s.elapsed s.input o.paths with
    | .error failure => .failed failure notices
    | .ok inspections => checkOutcome s.yaml o notices inspections

end CodeSmell
