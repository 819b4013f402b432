import CodeSmell.Files.Tree
import CodeSmell.Text.Quoted
import CodeSmell.Text.Similar

/-!
# Commands and their usage

* `Command`: what the program can be told to do;
* `helpText`: what the program says about itself or about a command;
* `UsageError`: why a command line is refused, and what is said then.
-/

namespace CodeSmell

def programName : Text := "main".toList

def versionText : Text := "0.1.0".toList

inductive Command where
  | check
  | report
  | server
deriving DecidableEq, Repr

namespace Command

def all : List Command := [.check, .report, .server]

def name : Command → Text
  | check => "check".toList
  | report => "report".toList
  | server => "server".toList

def ofName? (t : Text) : Option Command :=
  all.find? (·.name = t)

def purpose : Command → Text
  | check => "Analyze Python files (or '-' for stdin) for common code smells.".toList
  | report => "Write a plain-text analysis report for SOURCE ('-' for stdin).".toList
  | server => "Start the CosaCode analysis API.".toList

def summary (c : Command) : Text :=
  "  ".toList ++ c.name ++ List.replicate (8 - c.name.length) ' ' ++ c.purpose

def pattern : Command → Text
  | check => "[OPTIONS] PATHS...".toList
  | report => "[OPTIONS] SOURCE".toList
  | server => "[OPTIONS]".toList

def optionsHelp : Command → List String
  | check => [
      "  -f, --format [text|json|yaml]  Output format.  [default: text]",
      "  --fail-under INTEGER RANGE     Exit with status 1 if any file scores below",
      "                                 this.  [default: 0; 0<=x<=100]",
      "  -e, --exclude TEXT             File or directory names to skip.",
      "  --help                         Show this message and exit."]
  | report => [
      "  -o, --output FILENAME  Where to write the report (default: stdout).",
      "  --help                 Show this message and exit."]
  | server => [
      "  --port INTEGER  Port to listen on (default: 8471).",
      "  --help          Show this message and exit."]

end Command

def linesOf (ls : List String) : Text :=
  ls.flatMap fun l => l.toList ++ ['\n']

/-- The words that call the program, or a command of it. -/
def callText : Option Command → Text
  | none => programName
  | some c => programName ++ ' ' :: c.name

def usageLine (c : Option Command) : Text :=
  "Usage: ".toList ++ callText c ++ ' ' ::
    c.elim "[OPTIONS] COMMAND [ARGS]...".toList Command.pattern ++ ['\n']

def helpText (c : Option Command) : Text :=
  usageLine c ++
    match c with
    | none => linesOf [
        "",
        "  CosaCode — heuristic static analysis for Python code.",
        "",
        "Options:",
        "  --version      Show the version and exit.",
        "  -v, --verbose  Enable verbose output.",
        "  --help         Show this message and exit.",
        "",
        "Commands:"] ++
      Command.all.flatMap fun c => c.summary ++ ['\n']
    | some c => "\n  ".toList ++ c.purpose ++ "\n\nOptions:\n".toList ++ linesOf c.optionsHelp

inductive UsageError where
  | missingCommand
  | noSuchCommand (name : Text)
  /-- An option that is none of `options`. -/
  | noSuchOption (option : Text) (options : List Text)
  | missingValue (option : Text)
  | needlessValue (option : Text)
  | missingPaths
  | missingSource
  | extraArguments (arguments : List Text)
  | noSuchPath (path : Text)
  | unreadableSource (path : Text) (error : FileError)
  | nullInPath
  | unknownFormat (value : Text)
  | malformedThreshold (value : Text)
  | thresholdOutOfRange (value : Int)
  | malformedPort (value : Text)
deriving DecidableEq, Repr

namespace UsageError

def invalidValue (owner : String) (text : Text) : Text :=
  "Invalid value for ".toList ++ owner.toList ++ ": ".toList ++ text

/-- What is said about the names that are close to a word. -/
def suggestion (word : Text) (names : List Text) : Text :=
  match Text.closest word names with
  | [] => []
  | [name] => " Did you mean ".toList ++ name.quoted ++ ['?']
  | several =>
    " (Did you mean one of: ".toList ++ (", ".toList).intercalate (several.map Text.quoted) ++
      "?)".toList

def message : UsageError → Text
  | missingCommand => "Missing command.".toList
  | noSuchCommand name =>
    "No such command ".toList ++ name.quoted ++ '.' :: suggestion name (Command.all.map Command.name)
  | noSuchOption option options =>
    "No such option ".toList ++ option.quoted ++ '.' :: suggestion option options
  | missingValue option => "Option ".toList ++ option.quoted ++ " requires an argument.".toList
  | needlessValue option => "Option ".toList ++ option.quoted ++ " does not take a value.".toList
  | missingPaths => "Missing argument 'PATHS...'.".toList
  | missingSource => "Missing argument 'SOURCE'.".toList
  | extraArguments arguments =>
    (if arguments.length = 1 then "Got unexpected extra argument (" else
      "Got unexpected extra arguments (").toList ++ [' '].intercalate arguments ++ [')']
  | noSuchPath path =>
    invalidValue "'PATHS...'" ("Path ".toList ++ path.quoted ++ " does not exist.".toList)
  | unreadableSource path error =>
    invalidValue "'SOURCE'" ('\'' :: path ++ "': ".toList ++ error.reason)
  | nullInPath => nullMessage
  | unknownFormat value =>
    invalidValue "'--format' / '-f'" (value.quoted ++ " is not one of 'text', 'json', 'yaml'.".toList)
  | malformedThreshold value =>
    invalidValue "'--fail-under'" (value.quoted ++ " is not a valid integer range.".toList)
  | thresholdOutOfRange value =>
    invalidValue "'--fail-under'" (Text.ofInt value ++ " is not in the range 0<=x<=100.".toList)
  | malformedPort value => invalidValue "'--port'" (value.quoted ++ " is not a valid integer.".toList)

/-- Whether the usage is shown with the error. It is not where an option and its value do not go
together. -/
def showsUsage : UsageError → Bool
  | missingValue _ | needlessValue _ => false
  | _ => true

def text (e : UsageError) (c : Option Command) : Text :=
  let hint : Text :=
    if e.showsUsage then
      usageLine c ++ "Try '".toList ++ callText c ++ " --help' for help.\n\n".toList
    else []
  hint ++ "Error: ".toList ++ e.message ++ ['\n']

end UsageError

end CodeSmell
