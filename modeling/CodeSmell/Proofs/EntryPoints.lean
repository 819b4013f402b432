import CodeSmell.Service
import CodeSmell.Proofs.Command.Report
import CodeSmell.Proofs.Files.Paths
import CodeSmell.Proofs.Json.Texts
import CodeSmell.Proofs.LineEndings

/-!
# The ways to an analysis

Code can be sent to the service, or stored in a file that is inspected or reported on.

* `Holds files path code` : the file at `path` holds `code`;
* `inspectFile_of_holds`, `analyze_readSource`, `respond_analyze`, `respond_report` : what each way gives
  for `code`;
* `Agree`, `entry_points_agree` : the service refuses what an inspection passes over, and otherwise all
  give the same findings, score and report;
* `report_dashed_path_refused` : a path that starts with a dash is taken for an option, unless two dashes
  stand before it.
-/

namespace CodeSmell
open Text

/-- The path leads to a file with the bytes of the code. -/
structure Holds (files : FileTree) (path code : Text) : Prop where
  isPath : hasNull path = false
  stat : files.stat path = .ok (.file (Utf8.encode code))

/-! ## Files -/

theorem FileTree.read_of_stat {files : FileTree} {path : Text} {content : Bytes}
    (h : files.stat path = .ok (.file content)) : files.read path = .ok content := by
  rw [FileTree.read, h]
  rfl

section
variable {files : FileTree} {path code : Text} (hcode : Crlf code)
include hcode

/-- What is read of stored code has its findings. -/
theorem analyze_lenient_encode :
    analyze (Utf8.lenient (Utf8.encode code)).unifyNewlines = analyze code := by
  rw [Utf8.lenient_encode, unifyNewlines_eq_crlfToLf hcode, ← analyze_eq_analyze_crlfToLf hcode]

variable (h : Holds files path code)
include h

theorem inspectFile_of_holds (i : Inspector) :
    i.inspectFile files path =
      if Service.tooLarge i.settings code then none
      else some (reviewText (PathName.parse path).text code) := by
  have hread := FileTree.read_of_stat (FileTree.stat_text_parse h.stat)
  rw [Inspector.inspectFile, Inspector.load, hread, Service.tooLarge]
  simp only [Utf8.length_encode, decide_eq_true_eq]
  split_ifs with hsize
  · rfl
  · simp only [Except.toOption, Option.map_some, reviewText, analyze_lenient_encode hcode]

theorem analyze_readSource (hpath : path ≠ dash) {s : Surroundings} (hs : s.files = files) :
    analyze (readSource s path) = analyze code := by
  rw [readSource, if_neg hpath, hs, FileTree.read_of_stat h.stat]
  exact analyze_lenient_encode hcode

end

/-! ## The service -/

namespace Service

def post (path : String) (body : Bytes) : Service.Request :=
  { method := "POST".toList, path := path.toList, body }

section
variable {body : Bytes} {code : Text} (h : readCode body = .ok code) (settings : Settings)
include h

theorem respond_analyze : respond settings (post "/api/analyze" body) = analyzeCode settings code := by
  have hplace : endpoint? "/api/analyze".toList = some .analyze := by decide
  rw [respond, post, hplace]
  show answer.answerWith settings body analyzeCode = _
  rw [answer.answerWith, h]

theorem respond_report : respond settings (post "/api/report" body) = reportCode settings code := by
  have hplace : endpoint? "/api/report".toList = some .report := by decide
  rw [respond, post, hplace]
  show answer.answerWith settings body reportCode = _
  rw [answer.answerWith, h]

end

/-- Every code can be sent. -/
theorem readCode_render (code : Text) :
    readCode (Utf8.encode (Json.render (.record [("code", .text code)])).toList) = .ok code := by
  have hparse := Json.parse_render_field "code" code
  rw [Json.toList_render_field] at hparse ⊢
  have hempty (t : Text) : (Utf8.encode ('\x7b' :: t)).isEmpty = false := rfl
  rw [readCode, hempty, Json.decode?_encode]
  simp only [hparse]
  rfl

end Service

/-! ## Agreement -/

/-- A review of the file at the path, or its absence, and the answers to a body agree. -/
structure Agree (settings : Settings) (files : FileTree) (path : Text) (body : Bytes)
    (review : Option FileReview) : Prop where
  /-- The service refuses to analyse what has no review. -/
  analysis_refused :
    (Service.respond settings (Service.post "/api/analyze" body)).status = 413 ↔ review = none
  report_refused :
    (Service.respond settings (Service.post "/api/report" body)).status = 413 ↔ review = none
  analysis : ∀ r, review = some r →
    Service.respond settings (Service.post "/api/analyze" body) =
      { status := 200
        body := .record [("findings", .list (r.findings.map Finding.toJson)),
          ("count", .ofNat r.findings.length), ("score", .integer r.score)] }
  /-- The report is what every command line that asks for it prints. -/
  report : ∀ r, review = some r → ∀ (s : Surroundings) (args : List Text), s.files = files →
    Asks files path args →
    Service.respond settings (Service.post "/api/report" body) =
      { status := 200, body := .record [("report", .text (run s args).output)] }

theorem agree_of_holds {files : FileTree} {path code : Text} (hcode : Crlf code) (hpath : path ≠ dash)
    (hfile : Holds files path code) {body : Bytes} (hbody : Service.readCode body = .ok code)
    (i : Inspector) : Agree i.settings files path body (i.inspectFile files path) := by
  have hreview := inspectFile_of_holds hcode hfile i
  have hanalysis := Service.respond_analyze hbody i.settings
  have hreport := Service.respond_report hbody i.settings
  rw [Service.analyzeCode, Service.limited] at hanalysis
  rw [Service.reportCode, Service.limited] at hreport
  split_ifs at hreview hanalysis hreport with hsize
  · rw [hreview]
    exact {
      analysis_refused := by rw [hanalysis]; exact iff_of_true rfl rfl
      report_refused := by rw [hreport]; exact iff_of_true rfl rfl
      analysis := nofun
      report := nofun }
  · rw [hreview]
    refine {
      analysis_refused := by rw [hanalysis]; exact iff_of_false nofun nofun
      report_refused := by rw [hreport]; exact iff_of_false nofun nofun
      analysis := ?_
      report := ?_ }
    · rintro _ ⟨rfl⟩
      exact hanalysis
    · intro _ _ s args hs hasks
      rw [hreport, run_of_asks hasks hs, analyze_readSource hcode hfile hpath hs]

/-- **The ways to an analysis agree.** Code that a file holds and that is sent in a body is refused by the
service when the file has no review; otherwise the analysis and the report that the service gives are
those of the file, for every command line that asks for the report. -/
theorem entry_points_agree (settings : Settings) (exclude : List Text) (files : FileTree)
    (path code : Text) (hcode : CrBeforeLf code) (hpath : path ≠ dash) (hfile : Holds files path code) :
    (∃ body, Service.readCode body = .ok code) ∧
      (∃ review, Inspector.inspectNamed { settings, exclude } files path = .ok review ∧
        ∀ body, Service.readCode body = .ok code → Agree settings files path body review) ∧
      Asks files path ["report".toList, "--".toList, path] ∧
      (Asks files path ["report".toList, path] ↔ path.head? ≠ some '-') := by
  let i : Inspector := { settings, exclude }
  have hnamed : i.inspectNamed files path = .ok (i.inspectFile files path) := by
    rw [Inspector.inspectNamed, hfile.isPath]
    rfl
  have hread := FileTree.read_of_stat hfile.stat
  refine ⟨⟨_, Service.readCode_render code⟩, ⟨_, hnamed, ?_⟩, asks_report_dashes hfile.isPath hread,
    asks_report_iff hfile.isPath hread hpath⟩
  intro body hbody
  exact agree_of_holds hcode.crlf hpath hfile hbody i

def FileTree.single (name : Text) (content : Bytes) : FileTree :=
  { root := .directory [(name, .file content)] }

/-- A file in the root is found under its name, also with names before it that say nothing. -/
theorem holds_single (void : List Text) {path name code : Text} (hnull : hasNull path = false)
    (hpath : Utf8.size path ≤ FileTree.maxPath ∧ path ≠ [])
    (hsplit : Text.splitOn '/' path = void ++ [name])
    (hvoid : ∀ n ∈ void, n = [] ∨ n = ['.']) (hname : ¬(name = [] ∨ name = ['.']))
    (hup : name ≠ ['.', '.']) (hsize : Utf8.size name ≤ FileTree.maxName) :
    Holds (.single name (Utf8.encode code)) path code := by
  let files := FileTree.single name (Utf8.encode code)
  have hdir : ¬(files.root.find? []).any (!·.isDirectory) = true := Bool.false_ne_true
  have hfind : files.root.find? [name] = some (.file (Utf8.encode code)) := by
    simp [files, FileTree.single, Node.find?, Node.entry?]
  have hfollow : files.follow path = .ok [name] := by
    refine FileTree.follow_eq_ok.mpr ⟨hpath.1, hpath.2, ?_⟩
    have hstart : FileTree.startOf files.workingDirectory path = [] := ite_self []
    have hgoes : files.GoesOn [] name := ⟨hdir, hname, hup, Nat.not_lt.mpr hsize⟩
    rw [hstart, hsplit, FileTree.followFrom_append_void hdir hvoid, FileTree.followFrom_entry hgoes hfind nofun,
      FileTree.followFrom]
    rfl
  refine ⟨hnull, ?_⟩
  show files.stat path = _
  rw [FileTree.stat, hfollow]
  simp only [bind, Except.bind, hfind]

def fiveBytes : FileTree :=
  .single "a.py".toList (Utf8.encode "é(\r\n".toList)

/-- Five bytes are not too large for a limit of five. -/
theorem entry_points_agree_at_limit :
    CrBeforeLf "é(\r\n".toList ∧ "./a.py".toList ≠ dash ∧ Holds fiveBytes "./a.py".toList "é(\r\n".toList ∧
      ∃ review, Inspector.inspectNamed { settings := { maxFileSize := 5 } } fiveBytes "./a.py".toList =
          .ok review ∧
        ∀ body, Service.readCode body = .ok "é(\r\n".toList →
          Agree { maxFileSize := 5 } fiveBytes "./a.py".toList body review := by
  have hends : CrBeforeLf "é(\r\n".toList := by decide
  have hpath : "./a.py".toList ≠ dash := by decide
  have hfile : Holds fiveBytes "./a.py".toList "é(\r\n".toList :=
    holds_single [['.']] (by decide) (by decide) rfl (by decide) (by decide) (by decide) (by decide)
  exact ⟨hends, hpath, hfile, (entry_points_agree _ [] _ _ _ hends hpath hfile).2.1⟩

theorem formatReport_ne_nil (findings : List Finding) : formatReport findings ≠ [] := by
  unfold formatReport
  split_ifs
  · decide
  · intro h
    simp only [List.append_eq_nil_iff] at h
    exact absurd h.1.1.1.1 (by decide)

/-- A tree with one file whose name starts with a dash. -/
def dashedName : FileTree :=
  .single "-x.py".toList (Utf8.encode "name = 1\nprint(name)\n".toList)

/-- A file that is inspected and whose code the service reports on, and for which the command without two
dashes prints no report. -/
theorem report_dashed_path_refused :
    CrBeforeLf "name = 1\nprint(name)\n".toList ∧ "-x.py".toList ≠ dash ∧
      Holds dashedName "-x.py".toList "name = 1\nprint(name)\n".toList ∧
      ∃ body, Service.readCode body = .ok "name = 1\nprint(name)\n".toList ∧
        Inspector.inspectNamed { settings := {} } dashedName "-x.py".toList ≠ .ok none ∧
        Service.respond {} (Service.post "/api/report" body) ≠
          { status := 200
            body := .record [("report",
              .text (run { files := dashedName } ["report".toList, "-x.py".toList]).output)] } := by
  have hends : CrBeforeLf "name = 1\nprint(name)\n".toList := by decide
  have hfile : Holds dashedName "-x.py".toList "name = 1\nprint(name)\n".toList :=
    holds_single [] (by decide) (by decide) rfl (by decide) (by decide) (by decide) (by decide)
  have houtput : (run { files := dashedName } ["report".toList, "-x.py".toList]).output = [] := rfl
  have hsize : Service.tooLarge {} "name = 1\nprint(name)\n".toList = false := by decide
  refine ⟨hends, by decide, hfile, _, Service.readCode_render _, ?_, ?_⟩
  · rw [Inspector.inspectNamed, hfile.isPath, inspectFile_of_holds hends.crlf hfile, hsize]
    nofun
  · rw [Service.respond_report (Service.readCode_render _), houtput, Service.reportCode, Service.limited,
      hsize]
    intro h
    simp [Json.record, formatReport_ne_nil] at h

end CodeSmell
