import FirmwareTrace.Watch.Target
import FirmwareTrace.Workspace.Basic

/-! # Watchers at work

A scene is a watcher among the files of a workspace.  Commands are given to it one
after the other, and while it waits others act on the files.  What a watcher is
made of is left to its backend.
-/
namespace FirmwareTrace.Watch

/-- What a command comes to. -/
inductive Outcome
  /-- For a wait: the file was modified. -/
  | done
  | fault (fault : WatchFault)
  /-- Nothing that happens would end the wait. -/
  | blocked
  deriving DecidableEq, Repr

/-- What others do while a watcher waits. -/
inductive Action
  /-- Adds an octet to a file, which is created if need be. -/
  | append (path : String)
  | stop
  deriving DecidableEq, Repr

inductive Command
  | subscribe (path : String)
  | unsubscribe
  | wait (others : List Action)
  | act (action : Action)
  | remove (path : String)
  deriving DecidableEq, Repr

/-- The operations of one kind of watcher. -/
structure Backend (Watcher : Type) where
  subscribe : Workspace → String → Watcher → Except WatchFault Watcher
  unsubscribe : Watcher → Watcher
  stop : Watcher → Watcher
  /-- Takes note of a modification of the file at a place. -/
  observe : Place → Watcher → Watcher
  /-- Looks once whether the file was modified. -/
  look : Workspace → Watcher → Outcome × Watcher

structure Scene (Watcher : Type) where
  watcher : Watcher
  workspace : Workspace

namespace Backend

variable {Watcher : Type} (backend : Backend Watcher)

/-- The octet that is added to a file to modify it. -/
def mark : ByteArray := ⟨#[0]⟩

def act (scene : Scene Watcher) : Action → Scene Watcher
  | .stop => { scene with watcher := backend.stop scene.watcher }
  | .append path =>
    match scene.workspace.append path mark with
    | .error _ => scene
    | .ok (place, workspace) => ⟨backend.observe place scene.watcher, workspace⟩

/-- Waits while others act; what they do after the wait has ended is done as well. -/
def wait (scene : Scene Watcher) : List Action → Outcome × Scene Watcher
  | [] =>
    let looked := backend.look scene.workspace scene.watcher
    (looked.1, { scene with watcher := looked.2 })
  | action :: rest =>
    let looked := backend.look scene.workspace scene.watcher
    let next := { scene with watcher := looked.2 }
    match looked.1 with
    | .blocked => wait (backend.act next action) rest
    | outcome => (outcome, (action :: rest).foldl backend.act next)

/-- Carries out a command.  A path that cannot be removed stays as it is. -/
def perform (scene : Scene Watcher) : Command → Outcome × Scene Watcher
  | .subscribe path =>
    match backend.subscribe scene.workspace path scene.watcher with
    | .error fault => (.fault fault, scene)
    | .ok watcher => (.done, { scene with watcher })
  | .unsubscribe => (.done, { scene with watcher := backend.unsubscribe scene.watcher })
  | .wait others => backend.wait scene others
  | .act action => (.done, backend.act scene action)
  | .remove path =>
    match scene.workspace.remove path with
    | .error _ => (.done, scene)
    | .ok workspace => (.done, { scene with workspace })

/-- Carries out commands in order. -/
def performAll (scene : Scene Watcher) : List Command → List Outcome × Scene Watcher
  | [] => ([], scene)
  | command :: rest =>
    let performed := backend.perform scene command
    let others := performAll performed.2 rest
    (performed.1 :: others.1, others.2)

end Backend
end FirmwareTrace.Watch
