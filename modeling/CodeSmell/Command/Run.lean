import CodeSmell.Command.Check
import CodeSmell.Report

/-!
# Running the program

* `runReport`: writes the report of a text;
* `runServer`: starts the service;
* `run`: does what a command line asks for.
-/

namespace CodeSmell

/-- The text of a source, broken bytes left out. -/
def readSource (s : Surroundings) (source : Text) : Text :=
  let bytes := if source = dash then s.input else (s.files.read source).toOption.getD []
  (Utf8.lenient bytes).unifyNewlines

/-- Writes the report of a source to a file or to the standard output. -/
def runReport (s : Surroundings) (verbose : Bool) (o : ReportOptions) : Outcome :=
  let t := readSource s o.source
  let report := formatReport (analyze t)
  let notices := noticeLines s.clock verbose (textNotices t)
  if o.output = dash then { output := report, messages := notices }
  else if hasNull o.output then .failed .nullInPath notices
  else
    match s.files.writePlace o.output with
    | .ok _ => { messages := notices, written := [(o.output, Utf8.encode report)] }
    | .error e =>
      { messages := notices ++ "Error: Could not open file ".toList ++ o.output.quoted ++ ": ".toList ++
          e.reason ++ ['\n']
        exitCode := 1 }

/-- Starts the service, if there is a server for it. -/
def runServer (s : Surroundings) (o : ServerOptions) : Outcome :=
  if !s.canServe then
    { messages := "Web dependencies not installed.\nInstall with: pip install cosacode[web]\n".toList
      exitCode := 1 }
  else
    match Settings.load s.environment with
    | .error fault => .failed (.settings fault) []
    | .ok settings =>
      let settings := { settings with port := o.port.getD settings.port }
      { messages := Layout.paragraph ("CosaCode API starting on http://".toList ++ settings.host ++
          ':' :: Text.ofInt settings.port)
        served := some settings }

def perform (s : Surroundings) : Request → Outcome
  | .help about => { output := helpText about }
  | .version => { output := "cosacode, version ".toList ++ versionText ++ ['\n'] }
  | .check verbose o => runCheck s verbose o
  | .report verbose o => runReport s verbose o
  | .server o => runServer s o

def run (s : Surroundings) (args : List Text) : Outcome :=
  -- an empty command line gets the help as an error
  if args.isEmpty then { messages := helpText none, exitCode := 2 }
  else
    match Request.read s.files args with
    | .error refusal => .refused refusal
    | .ok request => perform s request

end CodeSmell
