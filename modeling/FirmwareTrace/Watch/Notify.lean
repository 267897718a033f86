import FirmwareTrace.Watch.Scene

/-! # Watching by directory events

A notified watcher has the directory of its file observed.  Every modification of
a file there is queued as an event with the name of the file, and a wait takes
events from the queue until one of them has the name it is subscribed to.  The
queue outlives a subscription.
-/
namespace FirmwareTrace.Watch

inductive EventKind
  | modified (name : Option String)
  /-- The directory is no longer observed. -/
  | ignored
  deriving DecidableEq, Repr

/-- An event of one observation. -/
structure Event where
  observation : Nat
  kind : EventKind
  deriving DecidableEq, Repr

namespace Event

/-- Octets of an event without a name, and what a name is padded to. -/
def unitSize : Nat := 16

def name? (event : Event) : Option String :=
  match event.kind with
  | .modified name => name
  | .ignored => none

def size (event : Event) : Nat :=
  match event.name? with
  | none => unitSize
  | some name => unitSize + (name.utf8ByteSize / unitSize + 1) * unitSize

end Event

/-- What is observed for a subscription, and the name it waits for. -/
structure Observation where
  number : Nat
  place : Place
  name : String
  deriving DecidableEq, Repr

structure Notify where
  current : Option Observation := none
  queue : List Event := []
  /-- How many observations have been made so far. -/
  made : Nat := 0
  deriving DecidableEq, Repr

namespace Notify

/-- Octets of the events that one read takes at most. -/
def readCapacity : Nat := 4096

/-- Adds an event to the queue, unless it equals the last one there. -/
def enqueue (notify : Notify) (event : Event) : Notify :=
  if notify.queue.getLast? = some event then notify
  else { notify with queue := notify.queue ++ [event] }

/-- Starts watching; `find` says what place a directory is at. -/
def subscribe (notify : Notify) (path : String) (find : String → Except IoFault Place) :
    Except WatchFault Notify :=
  match notify.current with
  | some _ => .error (.alreadySubscribed path)
  | none =>
    match Target.ofPath path with
    | .error fault => .error fault
    | .ok target =>
      match find target.directory with
      | .error fault => .error (.io fault)
      | .ok place =>
        .ok { notify with current := some ⟨notify.made, place, target.name⟩,
                          made := notify.made + 1 }

def unsubscribe (notify : Notify) : Notify :=
  match notify.current with
  | none => notify
  | some observation =>
    { notify with current := none }.enqueue ⟨observation.number, .ignored⟩

/-- Takes note of a modification of the file at a place. -/
def observe (notify : Notify) (modified : Place) : Notify :=
  match notify.current with
  | none => notify
  | some observation =>
    if modified.names ≠ [] ∧ observation.place = modified.up then
      notify.enqueue ⟨observation.number, .modified modified.names.head?⟩
    else if observation.place = modified then
      notify.enqueue ⟨observation.number, .modified none⟩
    else notify

/-- How many events at the front of the queue fit into a buffer. -/
def fitting (room : Nat) : List Event → Nat
  | [] => 0
  | event :: rest =>
    if event.size ≤ room then fitting (room - event.size) rest + 1 else 0

/-- Whether an event is one the current subscription waits for. -/
def wakes (notify : Notify) (event : Event) : Bool :=
  match notify.current with
  | none => false
  | some observation => event.name? == some observation.name

/-- Takes batches from the queue until one has an event that wakes.  A batch has as
many events as the queue is said to give at a time, but one at least. -/
def drain (batch : List Event → Nat) (wakes : Event → Bool) : List Event → Bool × List Event
  | [] => (false, [])
  | event :: more =>
    let others := batch (event :: more) - 1
    if wakes event || (more.take others).any wakes then (true, more.drop others)
    else drain batch wakes (more.drop others)
termination_by queue => queue.length
decreasing_by
  simp only [List.length_drop, List.length_cons]
  omega

/-- Takes batches from the queue as a wait does, if it ends at all. -/
def lookBy (batch : List Event → Nat) (notify : Notify) : Outcome × Notify :=
  match notify.current with
  | none => (.fault .notSubscribed, notify)
  | some _ =>
    let drained := drain batch notify.wakes notify.queue
    (if drained.1 then .done else .blocked, { notify with queue := drained.2 })

/-- Looks at the queue through a buffer of the usual size. -/
def look (notify : Notify) : Outcome × Notify := notify.lookBy (fitting readCapacity)

end Notify

/-- The place of a directory that can be observed. -/
def observable (workspace : Workspace) (path : String) : Except IoFault Place :=
  if path.toList.contains '\x00' then .error .invalidArgument
  else
    match workspace.find path with
    | .error fault => .error fault
    | .ok _ => workspace.locate path

def Notify.backend : Backend Notify where
  subscribe workspace path notify := notify.subscribe path (observable workspace)
  unsubscribe := unsubscribe
  stop notify := notify
  observe place notify := notify.observe place
  look _ notify := notify.look

end FirmwareTrace.Watch
