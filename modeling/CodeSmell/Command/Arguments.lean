import CodeSmell.Command.Usage

/-!
# Options and arguments of a command line

An option begins with a dash. A long option has its value after an equals sign or in the next
argument; short options may be written together, and the rest after one that takes a value is its
value. Two dashes end the options.

* `OptionKey`, `OptionSpec`: the options there are;
* `Arguments`: what has been read of a command line;
* `Arguments.read`: reading a command line.
-/

namespace CodeSmell

inductive OptionKey where
  | help
  | version
  | verbose
  | format
  | failUnder
  | exclude
  | output
  | port
deriving DecidableEq, Repr

structure OptionSpec where
  key : OptionKey
  long : Text
  short : Option Char := none
  takesValue : Bool := true
deriving DecidableEq, Repr

def helpOption : OptionSpec :=
  { key := .help, long := "--help".toList, takesValue := false }

/-- The options of the program itself, or of a command. -/
def optionSpecs : Option Command → List OptionSpec
  | none => [
      { key := .version, long := "--version".toList, takesValue := false },
      { key := .verbose, long := "--verbose".toList, short := some 'v', takesValue := false },
      helpOption]
  | some .check => [
      { key := .format, long := "--format".toList, short := some 'f' },
      { key := .failUnder, long := "--fail-under".toList },
      { key := .exclude, long := "--exclude".toList, short := some 'e' },
      helpOption]
  | some .report => [{ key := .output, long := "--output".toList, short := some 'o' }, helpOption]
  | some .server => [{ key := .port, long := "--port".toList }, helpOption]

/-- An option on a command line, with its value if it takes one. -/
structure Given where
  key : OptionKey
  value : Text := []
deriving DecidableEq, Repr

/-- What has been read of a command line: the options, the arguments that belong to none, an option
that waits for its value, and whether all that follows is an argument. -/
structure Arguments where
  options : List Given := []
  positional : List Text := []
  waiting : Option (OptionKey × Text) := none
  ended : Bool := false
deriving DecidableEq, Repr

namespace Arguments

def addOption (a : Arguments) (key : OptionKey) (value : Text) : Arguments :=
  { a with options := a.options ++ [{ key, value }], waiting := none }

def addPositional (a : Arguments) (arg : Text) : Arguments :=
  { a with positional := a.positional ++ [arg] }

/-- Reads short options that are written together. -/
def readShort (specs : List OptionSpec) (a : Arguments) : Text → Except UsageError Arguments
  | [] => .ok a
  | c :: rest =>
    match specs.find? (·.short = some c) with
    | none => .error (.noSuchOption ['-', c] [])
    | some s =>
      if !s.takesValue then readShort specs (a.addOption s.key []) rest
      else if rest.isEmpty then .ok { a with waiting := some (s.key, ['-', c]) }
      else .ok (a.addOption s.key rest)

/-- Reads an argument that begins with a dash. -/
def readOption (specs : List OptionSpec) (a : Arguments) (arg : Text) : Except UsageError Arguments :=
  let name := arg.before '='
  let value := if arg.contains '=' then some (arg.drop (name.length + 1)) else none
  match specs.find? (·.long = name), value with
  | some s, some v =>
    if s.takesValue then .ok (a.addOption s.key v) else .error (.needlessValue name)
  | some s, none =>
    if s.takesValue then .ok { a with waiting := some (s.key, name) } else .ok (a.addOption s.key [])
  | none, _ =>
    if arg.take 2 = ['-', '-'] then .error (.noSuchOption name (specs.map (·.long)))
    else readShort specs a (arg.drop 1)

def readOne (specs : List OptionSpec) (mixed : Bool) (a : Arguments) (arg : Text) :
    Except UsageError Arguments :=
  match a.waiting with
  | some (key, _) => .ok (a.addOption key arg)
  | none =>
    if a.ended then .ok (a.addPositional arg)
    else if arg = ['-', '-'] then .ok { a with ended := true }
    else if arg.head? = some '-' ∧ 1 < arg.length then readOption specs a arg
    -- where options and other arguments do not mix, the first of these ends the options
    else .ok { a.addPositional arg with ended := !mixed }

def read (specs : List OptionSpec) (mixed : Bool) (args : List Text) :
    Except UsageError Arguments := do
  let a ← args.foldlM (readOne specs mixed) {}
  match a.waiting with
  | some (_, name) => .error (.missingValue name)
  | none => .ok a

/-- The last value given to an option. -/
def value? (a : Arguments) (key : OptionKey) : Option Text :=
  (a.options.reverse.find? (·.key = key)).map (·.value)

def values (a : Arguments) (key : OptionKey) : List Text :=
  (a.options.filter (·.key = key)).map (·.value)

/-- The options given, in the order of their first places. -/
def keys (a : Arguments) : List OptionKey :=
  (a.options.map (·.key)).eraseDups

/-- The first option that asks for information instead of work. -/
def question? (a : Arguments) : Option OptionKey :=
  a.keys.find? fun k => k = .help ∨ k = .version

end Arguments

end CodeSmell
