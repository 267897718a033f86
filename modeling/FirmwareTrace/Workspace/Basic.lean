import FirmwareTrace.Channel.Input
import FirmwareTrace.Workspace.Path

/-! # Workspaces

The files and directories that a run can see.  A path is walked part by part from
the root or the working directory, and every part but the last has to lead to a
directory.  Each change takes the next tick of the workspace's clock, so a node
that was changed is always told apart from what it was before.
-/
namespace FirmwareTrace

/-- Where a walk starts: the root, or some levels above the working directory. -/
inductive Base
  | root
  | working (levelsUp : Nat)
  deriving DecidableEq, Repr

/-- A start and the names that lead on from it, the last first. -/
structure Place where
  base : Base
  names : List String
  deriving DecidableEq, Repr

namespace Place

def working : Place := ⟨.working 0, []⟩

def root : Place := ⟨.root, []⟩

def up : Place → Place
  | ⟨base, _ :: names⟩ => ⟨base, names⟩
  | ⟨.working n, []⟩ => ⟨.working (n + 1), []⟩
  | ⟨.root, []⟩ => root

/-- The place that one part of a path leads to. -/
def step (place : Place) (part : List Char) : Place :=
  if Path.isSilent part then place
  else if part = ['.', '.'] then place.up
  else ⟨place.base, String.ofList part :: place.names⟩

end Place

inductive Node
  | file (content : ByteArray) (tick : Nat)
  | directory (tick : Nat)

structure Workspace where
  nodes : List (Place × Node) := []
  clock : Nat := 0

namespace Workspace

/-- Octets of the longest name and of the longest path, less one. -/
def nameLimit : Nat := 255
def pathLimit : Nat := 4095

/-- What is at a place.  The root, the working directory and those above it exist. -/
def node? (workspace : Workspace) (place : Place) : Option Node :=
  match workspace.nodes.lookup place with
  | some node => some node
  | none => if place.names = [] then some (.directory 0) else none

/-- Goes on from a place, which has to be a directory for every part. -/
def walk (workspace : Workspace) (place : Place) : List (List Char) → Except IoFault Place
  | [] => .ok place
  | part :: rest =>
    match workspace.node? place with
    | none => .error .notFound
    | some (.file ..) => .error .notDirectory
    | some (.directory _) =>
      if nameLimit < (String.ofList part).utf8ByteSize then .error .nameTooLong
      else workspace.walk (place.step part) rest

/-- Paths that are refused before they are walked. -/
def refusal? (path : String) : Option IoFault :=
  if path.toList.contains '\x00' then some .nulInPath
  else if path = "" then some .notFound
  else if pathLimit < path.utf8ByteSize then some .nameTooLong
  else none

def start (path : String) : Place := if Path.isAbsolute path then .root else .working

/-- The place that a path leads to, whether or not there is something. -/
def locate (workspace : Workspace) (path : String) : Except IoFault Place :=
  match refusal? path with
  | some fault => .error fault
  | none => workspace.walk (start path) (Path.parts path)

/-- What a path leads to. -/
def find (workspace : Workspace) (path : String) : Except IoFault Node :=
  match workspace.locate path with
  | .error fault => .error fault
  | .ok place =>
    match workspace.node? place with
    | some node => .ok node
    | none => .error .notFound

/-- The whole content of a file. -/
def read (workspace : Workspace) (path : String) : Except IoFault ByteArray :=
  match workspace.find path with
  | .error fault => .error fault
  | .ok (.directory _) => .error .isDirectory
  | .ok (.file content _) => .ok content

/-- Opens a path for reading.  A directory can be opened but not read. -/
def openInput (workspace : Workspace) (path : String) : Except IoFault Channel.Stream :=
  match workspace.find path with
  | .error fault => .error fault
  | .ok (.directory _) => .ok { data := .empty, script := [.failure .isDirectory] }
  | .ok (.file content _) => .ok { data := content }

/-! ## Changes -/

def put (workspace : Workspace) (place : Place) (node : Node) : Workspace :=
  { workspace with nodes := (place, node) :: workspace.nodes.filter fun e => e.1 != place }

/-- Marks the directory of a place as changed. -/
def touchParent (workspace : Workspace) (place : Place) : Workspace :=
  workspace.put place.up (.directory workspace.clock)

/-- Stores a file, and says so to its directory if it is new. -/
def store (workspace : Workspace) (place : Place) (content : ByteArray) : Workspace :=
  let next := { workspace with clock := workspace.clock + 1 }
  let next := if (workspace.node? place).isNone then next.touchParent place else next
  next.put place (.file content next.clock)

/-- The place where a path lets a file be created. -/
def creatable (workspace : Workspace) (path : String) : Except IoFault Place :=
  match refusal? path with
  | some fault => .error fault
  | none =>
    match (Path.parts path).reverse.dropWhile (· = []) with
    | [] => .error .isDirectory
    | last :: earlier =>
      match workspace.walk (start path) earlier.reverse with
      | .error fault => .error fault
      | .ok directory =>
        match workspace.node? directory with
        | none => .error .notFound
        | some (.file ..) => .error .notDirectory
        | some (.directory _) =>
          let place := directory.step last
          if (Path.parts path).getLast? ≠ some last ∨ last = ['.'] ∨ last = ['.', '.'] then
            .error .isDirectory
          else if nameLimit < (String.ofList last).utf8ByteSize then .error .nameTooLong
          else
            match workspace.node? place with
            | some (.directory _) => .error .isDirectory
            | _ => .ok place

/-- Adds octets to the end of a file, which is created if need be. -/
def append (workspace : Workspace) (path : String) (octets : ByteArray) :
    Except IoFault (Place × Workspace) :=
  match workspace.creatable path with
  | .error fault => .error fault
  | .ok place =>
    let before := match workspace.node? place with
      | some (.file content _) => content
      | _ => .empty
    .ok (place, workspace.store place (before ++ octets))

def remove (workspace : Workspace) (path : String) : Except IoFault Workspace :=
  match workspace.locate path with
  | .error fault => .error fault
  | .ok place =>
    match workspace.node? place with
    | none => .error .notFound
    | some (.directory _) => .error .isDirectory
    | some (.file ..) =>
      let next := { nodes := workspace.nodes.filter fun e => e.1 != place,
                    clock := workspace.clock + 1 : Workspace }
      .ok (next.touchParent place)

/-- Puts a file at the path, and directories on the way to it. -/
def addFile (workspace : Workspace) (path : String) (content : ByteArray) : Workspace :=
  let places := (Path.parts path).foldl
    (fun places part => (places.headD (start path)).step part :: places) []
  match places with
  | [] => workspace
  | place :: earlier =>
    (earlier.foldl (fun w directory => w.put directory (.directory 0)) workspace).put place
      (.file content 0)

/-- Size and tick of what a path leads to. -/
def stamp? (workspace : Workspace) (path : String) : Option (Nat × Nat) :=
  match workspace.find path with
  | .error _ => none
  | .ok (.file content tick) => some (content.size, tick)
  | .ok (.directory tick) => some (0, tick)

end Workspace
end FirmwareTrace
