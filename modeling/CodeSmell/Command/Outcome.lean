import CodeSmell.Command.Request
import CodeSmell.Inspect

/-!
# What a run of the program finds and leaves behind

* `Surroundings`: files, variables, standard input, clocks, and the writer of YAML texts;
* `Failure`: why a command breaks off;
* `Outcome`: what a run prints, writes and starts.
-/

namespace CodeSmell

/-- What a run of the program finds. -/
structure Surroundings where
  files : FileTree := {}
  environment : Environment := []
  input : Bytes := []
  /-- Whether there is a server to start. -/
  canServe : Bool := true
  /-- The time of day that notices carry. -/
  clock : Text := []
  /-- How many seconds the inspection of the path with this index takes. -/
  elapsed : Nat → Float := fun _ => 0.0
  /-- The YAML text of a value, which a library writes that is no part of the program. -/
  yaml : Json → Text := fun _ => []
deriving Inhabited

inductive Failure where
  | settings (fault : IntegerFault)
  | input (fault : Utf8.Fault)
  | inspect (error : InspectError)
  | nullInPath
deriving DecidableEq, Repr

def Failure.message : Failure → Text
  | settings fault => fault.message
  | input fault => fault.message
  | inspect error => error.message
  | nullInPath => nullMessage

/-- What a run of the program leaves behind. -/
structure Outcome where
  /-- What is printed on the standard output. -/
  output : Text := []
  /-- What is printed on the standard error. -/
  messages : Text := []
  exitCode : Nat := 0
  failure : Option Failure := none
  /-- The data that is printed on the standard output, where it is data. -/
  document : Option Json := none
  /-- The files written: their paths and contents. -/
  written : List (Text × Bytes) := []
  /-- The settings of the server that is started. -/
  served : Option Settings := none
deriving Inhabited

namespace Outcome

/-- A command that breaks off after some messages. -/
def failed (failure : Failure) (messages : Text) : Outcome :=
  { messages, exitCode := 1, failure := some failure }

/-- A command line that is refused. A path with a null character breaks off the run. -/
def refused (r : Refusal) : Outcome :=
  if r.error = .nullInPath then .failed .nullInPath []
  else { messages := r.error.text r.command, exitCode := 2 }

end Outcome

def noticeLines (clock : Text) (verbose : Bool) (notices : List Notice) : Text :=
  if verbose then notices.flatMap fun n => clock ++ " [DEBUG] ".toList ++ n.text ++ ['\n'] else []

end CodeSmell
