import CodeSmell.Command.Run
import Std.Time.DateTime.Timestamp

/-!
# The command line

Gathers the surroundings of a run from the host, runs the program, and carries out what comes of it.
No server is built in, so the service is not started from here. An inspection counts the time in which the
host has read the files.

* `Host.readNode`: the files below a path of the host;
* `Host.surroundings`: what a command line may need;
* `main`: the program.
-/

namespace CodeSmell.Host

def brokenLink : Node := .link [Char.ofNat 0]

mutual

partial def readNode (path : String) : IO Node := do
  let place := (← IO.currentDir) / path
  if ← place.isDir then
    let mut entries := []
    for e in ← place.readDir do
      entries := (e.fileName.toList, ← readEntry e.path.toString) :: entries
    return .directory entries
  else if (← place.metadata).type == .other then return .nullDevice
  else return .file (← IO.FS.readBinFile path).toList

/-- An entry of a directory. A link to a directory stays a link, so that it is not entered. -/
partial def readEntry (path : String) : IO Node := do
  let place := (← IO.currentDir) / path
  try
    if (← place.symlinkMetadata).type == .symlink && (← place.isDir) then
      return .link (← IO.FS.realPath path).toString.toList
    else readNode path
  catch _ => return brokenLink

end

def placeOf (path : String) : List Text :=
  (PathName.parse path.toList).components

/-- Puts the file or directory at a path into the tree, without what is in it. -/
def addPlace (files : FileTree) (path : String) : IO FileTree := do
  try
    let real ← IO.FS.realPath path
    let place := placeOf real.toString
    if (files.root.find? place).isSome then return files
    else
      let node : Node := if ← real.isDir then .directory [] else .file []
      return { files with root := Node.insert node files.root place }
  catch _ => return files

/-- Puts what a path leads to into the tree. -/
def addPath (files : FileTree) (path : Text) : IO FileTree := do
  let place := placeOf (String.ofList (files.absolutePath path))
  let files ← addPlace files (String.ofList (PathName.absolute place.dropLast).text)
  try
    let real ← IO.FS.realPath (String.ofList path)
    let node ← readNode real.toString
    let files := { files with root := Node.insert node files.root (placeOf real.toString) }
    if place.contains ['.', '.'] || place == placeOf real.toString then return files
    else return { files with root := Node.insert (.link real.toString.toList) files.root place }
  catch _ => return files

partial def readAll (input : IO.FS.Stream) (seen : Bytes) : IO Bytes := do
  let block ← input.read 65536
  if block.isEmpty then return seen.reverse
  else readAll input (block.toList.reverse ++ seen)

def twoDigits (n : Nat) : Text :=
  Text.ofNat (n / 10 % 10) ++ Text.ofNat (n % 10)

def clock : IO Text := do
  let now := (← Std.Time.Timestamp.now).toSecondsSinceUnixEpoch.val.toNat
  return twoDigits (now / 3600 % 24) ++ ':' :: twoDigits (now / 60 % 60) ++ ':' :: twoDigits (now % 60)

def surroundings (args : List Text) : IO Surroundings := do
  let here := (← IO.currentDir).toString
  let paths := Request.mentioned args
  let start ← addPlace { workingDirectory := placeOf here } here
  let before ← IO.monoMsNow
  let files ← (paths.filter (· ≠ dash)).foldlM addPath start
  let seconds := Float.ofNat ((← IO.monoMsNow) - before) / 1000.0
  let mut environment := []
  for name in Settings.variableNames do
    if let some value ← IO.getEnv name then
      environment := (name.toList, value.toList) :: environment
  let input ← if paths.contains dash then readAll (← IO.getStdin) [] else pure []
  return { files, environment, input, canServe := false, clock := ← clock
           elapsed := fun _ => seconds
           -- every JSON text is a YAML text too
           yaml := fun v => v.renderIndented.toList ++ ['\n'] }

end CodeSmell.Host

open CodeSmell in
def main (args : List String) : IO UInt32 := do
  let args := args.map String.toList
  let outcome := run (← Host.surroundings args) args
  for (path, content) in outcome.written do
    IO.FS.writeBinFile (String.ofList path) ⟨content.toArray⟩
  IO.print (String.ofList outcome.output)
  IO.eprint (String.ofList outcome.messages)
  if let some failure := outcome.failure then
    IO.eprintln (String.ofList failure.message)
  return UInt32.ofNat outcome.exitCode
