import CodeSmell.Scan.Analysis
import CodeSmell.Score
import CodeSmell.Inspection
import CodeSmell.Files.Resolve
import CodeSmell.Files.Walk

/-!
# Inspecting files

* `reviewText`: the review of a text under a label;
* `Inspector`: settings and excluded names;
* `Inspector.load`: the text of a file, unless it is too large or cannot be read;
* `Inspector.inspectPath`: the inspection of a file or of a directory;
* `Notice`: what is passed over on the way, for those who ask.
-/

namespace CodeSmell

def inputLabel : Text := "<stdin>".toList

def reviewText (label t : Text) : FileReview :=
  let findings := analyze t
  { path := label, findings, score := healthScore findings }

inductive SkipCause where
  | tooLarge
  | unreadable (e : FileError)
deriving DecidableEq, Repr

inductive Notice where
  | notAName (name : Text)
  | skipped (path : Text) (cause : SkipCause)
deriving DecidableEq, Repr

/-- The part of the program that gives a notice, and what it says. -/
def Notice.text : Notice → Text
  | notAName name =>
    "cosacode.analyzer.aggregators: Skipping usage count for ".toList ++ name.quoted ++
      ": not an identifier".toList
  | skipped path cause =>
    "cosacode.analyzer.engine: Skipping ".toList ++ path ++ ": ".toList ++
      match cause with
      | .tooLarge => "larger than limit".toList
      | .unreadable e => e.message path

/-- The notices of the analysis of a text: imported and assigned names that are no identifiers. -/
def textNotices (t : Text) : List Notice :=
  let s := (scanLines t.lines).state
  ((s.importedNames ++ s.assigned.map (·.1)).filter (!·.isIdentifier)).map .notAName

inductive InspectError where
  | linkLoop (path : Text)
  | unusable (path : Text) (error : FileError)
  | nullInPath
deriving DecidableEq, Repr

def InspectError.message : InspectError → Text
  | linkLoop path => "Symlink loop from ".toList ++ path.quoted
  | unusable path error => error.message path
  | nullInPath => nullMessage

/-- The settings of an inspection and the names it leaves out. -/
structure Inspector where
  settings : Settings
  exclude : List Text := []
deriving DecidableEq, Repr

namespace Inspector

def load (i : Inspector) (files : FileTree) (path : Text) : Except SkipCause Text :=
  match files.read path with
  | .error e => .error (.unreadable e)
  | .ok content =>
    if i.settings.maxFileSize < (content.length : Int) then .error .tooLarge
    else .ok (Utf8.lenient content).unifyNewlines

def inspectFile (i : Inspector) (files : FileTree) (path : Text) : Option FileReview :=
  let path := (PathName.parse path).text
  (i.load files path).toOption.map (reviewText path)

/-- The review of a file under a name from outside. -/
def inspectNamed (i : Inspector) (files : FileTree) (path : Text) :
    Except InspectError (Option FileReview) :=
  if hasNull path then .error .nullInPath else .ok (i.inspectFile files path)

def selection (i : Inspector) : Selection :=
  { extensions := i.settings.extensions, exclude := i.exclude }

/-- The files that an inspection of a place looks at: the file itself, or the files below a
directory. -/
def targets (i : Inspector) (files : FileTree) (place : List Text) : List Text :=
  let root := (PathName.absolute place).text
  if files.isFile root then [root]
  else (files.walk i.selection place).map fun p => (PathName.absolute p).text

/-- The place that an inspection starts from. -/
def place (files : FileTree) (path : Text) : Except InspectError (List Text) :=
  if hasNull path then .error .nullInPath
  else
    let place := files.resolve (PathName.parse path).text
    let root := (PathName.absolute place).text
    match files.stat root with
    | .error .tooManyLinks => .error (.linkLoop root)
    | .error .nameTooLong => .error (.unusable root .nameTooLong)
    -- nothing need be there
    | _ => .ok place

/-- Takes one more file into an inspection: it is reviewed and scanned, or skipped. -/
def inspectNext (i : Inspector) (files : FileTree) (r : Inspection) (path : Text) : Inspection :=
  match i.inspectFile files path with
  | none => { r with skipped := r.skipped + 1 }
  | some review => { r with scanned := r.scanned + 1, files := r.files ++ [review] }

def inspectPlace (i : Inspector) (files : FileTree) (place : List Text) (elapsed : Float) : Inspection :=
  let start : Inspection := { root := (PathName.absolute place).text }
  { (i.targets files place).foldl (i.inspectNext files) start with duration := elapsed }

/-- The inspection of a file or directory, which takes `elapsed` seconds. -/
def inspectPath (i : Inspector) (files : FileTree) (path : Text) (elapsed : Float := 0.0) :
    Except InspectError Inspection :=
  (place files path).map fun place => i.inspectPlace files place elapsed

def fileNotices (i : Inspector) (files : FileTree) (path : Text) : List Notice :=
  match i.load files path with
  | .ok t => textNotices t
  | .error cause => [.skipped path cause]

def pathNotices (i : Inspector) (files : FileTree) (path : Text) : List Notice :=
  match place files path with
  | .error _ => []
  | .ok place => (i.targets files place).flatMap (i.fileNotices files)

end Inspector

end CodeSmell
