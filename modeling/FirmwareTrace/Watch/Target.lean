import FirmwareTrace.Failure
import FirmwareTrace.Workspace.Path

/-! # Watched targets

A watcher observes one file: the directory it is in, and its name there.
-/
namespace FirmwareTrace.Watch

structure Target where
  directory : String
  name : String
  deriving DecidableEq, Repr

/-- The directory and the name of the file that a path leads to. -/
def Target.ofPath (path : String) : Except WatchFault Target :=
  match Path.fileName? path with
  | none => .error (.invalidTarget path)
  | some name =>
    let directory := (Path.parent? path).getD ""
    .ok ⟨if directory = "" then "." else directory, name⟩

end FirmwareTrace.Watch
