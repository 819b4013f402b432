import CodeSmell.Finding
import CodeSmell.Json.Value
import CodeSmell.Decimal.Double
import CodeSmell.Settings

/-!
# Results of inspections, and their form as data

* `FileReview`: the findings and the score of one file;
* `Inspection`: the reviews of a file or directory, with counts;
* `toJson`: the data of findings, reviews, inspections and settings.
-/

namespace CodeSmell

structure FileReview where
  path : Text
  findings : List Finding := []
  score : Int := 100
deriving DecidableEq, Repr

/-- The reviews of the files below a root. -/
structure Inspection where
  root : Text
  files : List FileReview := []
  scanned : Nat := 0
  skipped : Nat := 0
  duration : Float := 0.0
deriving Repr

def Inspection.findings (r : Inspection) : List Finding :=
  r.files.flatMap FileReview.findings

def Finding.toJson (f : Finding) : Json :=
  .record [("rule", .text f.rule), ("severity", .text f.severity.label), ("message", .text f.message),
    ("line", .ofOption .integer f.line), ("snippet", .ofOption .text f.snippet)]

def FileReview.toJson (r : FileReview) : Json :=
  .record [("path", .text r.path), ("score", .integer r.score),
    ("findings", .list (r.findings.map Finding.toJson))]

def Inspection.toJson (r : Inspection) : Json :=
  .record [("root", .text r.root), ("files_scanned", .ofNat r.scanned),
    ("files_skipped", .ofNat r.skipped), ("duration", .decimal (Decimal.roundedToFour r.duration)),
    ("files", .list (r.files.map FileReview.toJson))]

def Settings.toJson (s : Settings) : Json :=
  .record [("max_file_size", .integer s.maxFileSize), ("extensions", .list (s.extensions.map .text)),
    ("web_host", .text s.host), ("web_port", .integer s.port)]

end CodeSmell
