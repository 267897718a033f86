import FirmwareTrace.Cli.Run

/-! # The program

The command line on the real file system: what a run can reach is read into a
workspace, the run is computed, and what it wrote is stored.  A run that waits is
computed anew whenever its input has changed, and only what is new is shown.
-/
namespace FirmwareTrace.Program
open Cli

/-- The error number of a read from a directory. -/
def directoryErrno : UInt32 := 21

/-- What a path leads to.  A name that the system cannot look up leads to nothing; other faults
are not handled. -/
def look (path : String) : IO (Option Node) := do
  match ← (IO.FS.readBinFile path).toBaseIO with
  | .ok content => return some (.file content 0)
  | .error (.noFileOrDirectory ..) | .error (.invalidArgument ..) => return none
  | .error (.inappropriateType _ code _) =>
    return if code = directoryErrno then some (.directory 0) else none
  | .error fault => throw fault

/-- Adds what a path leads to, and all on the way to it. -/
def observe (workspace : Workspace) (path : String) : IO Workspace := do
  if (Workspace.refusal? path).isSome then return workspace
  let parts := Path.parts path
  let mut seen := workspace
  let mut place := Workspace.start path
  for count in [1 : parts.length + 1] do
    let front := Path.ofParts (parts.take count)
    place := place.step (parts.getD (count - 1) [])
    match ← look (if front = "" then "/" else front) with
    | some node => seen := seen.put place node
    | none => pure ()
  return seen

/-- The settings of a run, as far as the workspace shows them. -/
def settings? (workspace : Workspace) (arguments : Arguments) : Option Settings :=
  (Settings.resolve workspace arguments).toOption

/-- All paths that a run with the settings can reach. -/
def Settings.paths (settings : Settings) : List String :=
  settings.config.sources.map Source.path ++ settings.input.toList ++ settings.output.toList

/-- The part of the file system that a run can reach. -/
def gather (arguments : Arguments) : IO Workspace := do
  let configured ← arguments.config.toList.foldlM observe {}
  match settings? configured arguments with
  | none => return configured
  | some settings => (Settings.paths settings).foldlM observe configured

/-- Stores the output file of a run, if it was written. -/
def storeOutput (before : Workspace) (settings : Option Settings) (result : Result) : IO Unit := do
  if result.workspace.clock = before.clock then return
  match settings.bind Settings.output with
  | none => return
  | some path =>
    match result.workspace.read path with
    | .ok content => IO.FS.writeBinFile path content
    | .error _ => return

/-- Shows what a run wrote after the part that was shown before. -/
def showNew (shown : Result) (result : Result) : IO Unit := do
  let output ← IO.getStdout
  output.write (result.output.extract shown.output.size result.output.size)
  output.flush
  IO.eprint (String.ofList (result.errors.toList.drop shown.errors.length))

/-- The time between two looks at the input of a waiting run, in milliseconds. -/
def pause : UInt32 := 250

/-- The content of the input, if it can be read. -/
def currentInput (settings : Option Settings) : IO (Option ByteArray) := do
  match settings.bind Settings.input with
  | none => return none
  | some path =>
    match ← look path with
    | some (.file content _) => return some content
    | _ => return none

def runArguments (arguments : List String) (parsed : Arguments) : IO Result := do
  let workspace ← gather parsed
  let settings := settings? workspace parsed
  let mut signals : List Decode.Signal := []
  let mut last ← currentInput settings
  let mut result := Cli.run workspace arguments signals
  storeOutput workspace settings result
  showNew { status := none, workspace } result
  while result.status.isNone do
    IO.sleep pause
    let current ← currentInput settings
    if current != last then
      last := current
      signals := signals ++ [.modified (.replace (current.getD .empty))]
      let next := Cli.run workspace arguments signals
      storeOutput workspace settings next
      showNew result next
      result := next
  return result

end FirmwareTrace.Program

open FirmwareTrace in
def main (arguments : List String) : IO UInt32 := do
  let result ←
    match Cli.read {} arguments with
    | .run parsed => Program.runArguments arguments parsed
    | _ =>
      let result := Cli.run {} arguments []
      Program.showNew { status := none, workspace := {} } result
      pure result
  return UInt32.ofNat (result.status.getD 0)
