import CodeSmell.Decimal.Integer

/-!
# Settings

* `Settings`: size limit, file extensions, and the address of the service;
* `Environment`: the variables that settings are loaded from;
* `parseExtensions`: extensions as a list between commas;
* `Settings.load`: the settings of an environment.
-/

namespace CodeSmell

structure Settings where
  /-- Files and requests with more bytes than this are refused. -/
  maxFileSize : Int := 1048576
  /-- The extensions of the files that are looked at. -/
  extensions : List Text := [".py".toList]
  host : Text := "127.0.0.1".toList
  port : Int := 8471
deriving DecidableEq, Repr

abbrev Environment := List (Text × Text)

namespace Environment

/-- The value of a variable that is set and not empty. -/
def get? (env : Environment) (name : String) : Option Text :=
  (env.lookup name.toList).filter (!·.isEmpty)

end Environment

/-- An extension starts with a dot. -/
def withDot (e : Text) : Text :=
  if e.head? = some '.' then e else '.' :: e

/-- The extensions of a list between commas, without blanks around them and without empty ones. -/
def parseExtensions (t : Text) : List Text :=
  (((t.splitOn ',').map Text.strip).filter (!·.isEmpty)).map withDot

namespace Settings

def variableNames : List String :=
  ["COSACODE_MAX_FILE_SIZE", "COSACODE_WEB_PORT", "COSACODE_EXTENSIONS"]

def loadInteger (env : Environment) (name : String) (fallback : Int) : Except IntegerFault Int :=
  match env.get? name with
  | none => .ok fallback
  | some t => readInteger t

def load (env : Environment) : Except IntegerFault Settings := do
  let fallback : Settings := {}
  let maxFileSize ← loadInteger env "COSACODE_MAX_FILE_SIZE" fallback.maxFileSize
  let port ← loadInteger env "COSACODE_WEB_PORT" fallback.port
  let extensions := (env.get? "COSACODE_EXTENSIONS").elim fallback.extensions parseExtensions
  return { fallback with maxFileSize, port, extensions }

end Settings

end CodeSmell
