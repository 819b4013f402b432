import CodeSmell.Command.Arguments
import CodeSmell.Decimal.Integer

/-!
# What a command line asks for

* `OutputFormat`, `CheckOptions`, `ReportOptions`, `ServerOptions`: the commands with their options;
* `Request`: all that can be asked for;
* `Request.read`: the request of a command line, or why it is refused.

Options are looked at in the order in which they are given, and before the arguments.
-/

namespace CodeSmell

inductive OutputFormat where
  | text
  | json
  | yaml
deriving DecidableEq, Repr

def OutputFormat.ofName? (t : Text) : Option OutputFormat :=
  if t = "text".toList then some .text
  else if t = "json".toList then some .json
  else if t = "yaml".toList then some .yaml
  else none

/-- The argument that stands for the standard input or output. -/
def dash : Text := ['-']

structure CheckOptions where
  paths : List Text
  format : OutputFormat := .text
  /-- A file that scores below this makes the command fail. -/
  failUnder : Nat := 0
  exclude : List Text := []
deriving DecidableEq, Repr

structure ReportOptions where
  source : Text
  output : Text := dash
deriving DecidableEq, Repr

structure ServerOptions where
  port : Option Int := none
deriving DecidableEq, Repr

inductive Request where
  | help (about : Option Command)
  | version
  | check (verbose : Bool) (options : CheckOptions)
  | report (verbose : Bool) (options : ReportOptions)
  | server (options : ServerOptions)
deriving DecidableEq, Repr

/-- Why a command line is refused, and in the use of what. -/
structure Refusal where
  command : Option Command
  error : UsageError
deriving DecidableEq, Repr

namespace CheckOptions

def readThreshold (t : Text) : Except UsageError Nat :=
  match readInteger t with
  | .error _ => .error (.malformedThreshold t)
  | .ok n => if 0 ≤ n ∧ n ≤ 100 then .ok n.toNat else .error (.thresholdOutOfRange n)

def setOption (a : Arguments) (o : CheckOptions) (key : OptionKey) : Except UsageError CheckOptions :=
  match key, a.value? key with
  | .format, some t =>
    match OutputFormat.ofName? t with
    | some format => .ok { o with format }
    | none => .error (.unknownFormat t)
  | .failUnder, some t => (readThreshold t).map fun failUnder => { o with failUnder }
  | .exclude, _ => .ok { o with exclude := a.values .exclude }
  | _, _ => .ok o

def ofArguments (files : FileTree) (a : Arguments) : Except UsageError CheckOptions := do
  let o ← a.keys.foldlM (setOption a) { paths := a.positional }
  if o.paths.isEmpty then .error .missingPaths
  else
    -- every path but the dash must be there
    match o.paths.find? fun p => p ≠ dash ∧ !files.hasPath p with
    | some p => .error (if hasNull p then .nullInPath else .noSuchPath p)
    | none => .ok o

end CheckOptions

/-- The options of a report. The source must be readable. -/
def ReportOptions.ofArguments (files : FileTree) (a : Arguments) : Except UsageError ReportOptions :=
  match a.positional with
  | [] => .error .missingSource
  | source :: extra =>
    if source = dash then done source extra
    else if hasNull source then .error .nullInPath
    else
      match files.read source with
      | .error e => .error (.unreadableSource source e)
      | .ok _ => done source extra
where
  /-- A report has one source. -/
  done (source : Text) (extra : List Text) : Except UsageError ReportOptions :=
    if extra.isEmpty then .ok { source, output := (a.value? .output).getD dash }
    else .error (.extraArguments extra)

def ServerOptions.ofArguments (a : Arguments) : Except UsageError ServerOptions := do
  let port ← match a.value? .port with
    | none => .ok none
    | some t =>
      match readInteger t with
      | .ok n => .ok (some n)
      | .error _ => .error (.malformedPort t)
  if a.positional.isEmpty then .ok { port } else .error (.extraArguments a.positional)

namespace Request

/-- The texts of a command line that may be paths: the arguments and the values of options of a
command. -/
def mentioned (args : List Text) : List Text :=
  let found : Except UsageError (List Text) := do
    let a ← Arguments.read (optionSpecs none) false args
    let c := a.positional.head?.bind Command.ofName?
    let a ← Arguments.read (optionSpecs c) true a.positional.tail
    return a.positional ++ a.options.map (·.value)
  found.toOption.getD []

def ofQuestion (about : Option Command) : OptionKey → Request
  | .version => .version
  | _ => .help about

def ofCommand (files : FileTree) (verbose : Bool) (c : Command) (args : List Text) :
    Except UsageError Request := do
  let a ← Arguments.read (optionSpecs (some c)) true args
  match a.question? with
  | some key => .ok (ofQuestion (some c) key)
  | none =>
    match c with
    | .check => (CheckOptions.ofArguments files a).map (.check verbose)
    | .report => (ReportOptions.ofArguments files a).map (.report verbose)
    | .server => (ServerOptions.ofArguments a).map .server

/-- What is said of a name that is no command. -/
def ofUnknown (name : Text) (rest : List Text) : Except UsageError Request := do
  -- an option there is read as an option first
  let a ← Arguments.read (optionSpecs none) false (name :: rest)
  match a.question? with
  | some key => .ok (ofQuestion none key)
  | none => .error (.noSuchCommand name)

/-- The request of a command line that is not empty. -/
def read (files : FileTree) (args : List Text) : Except Refusal Request :=
  match Arguments.read (optionSpecs none) false args with
  | .error e => .error ⟨none, e⟩
  | .ok a =>
    match a.question?, a.positional with
    | some key, _ => .ok (ofQuestion none key)
    | none, [] => .error ⟨none, .missingCommand⟩
    | none, name :: rest =>
      match Command.ofName? name with
      | some c => (ofCommand files (a.keys.contains .verbose) c rest).mapError (⟨some c, ·⟩)
      | none => (ofUnknown name rest).mapError (⟨none, ·⟩)

end Request

end CodeSmell
