import FirmwareTrace.Watch.Scene

/-! # Watching by polling

A polling watcher compares the stamp of its file with the last one it saw.  Once
stopped it stays closed.
-/
namespace FirmwareTrace.Watch

/-- Size and tick of the file; none while there is no file. -/
abbrev Stamp := Option (Nat × Nat)

structure Subscription where
  path : String
  last : Stamp
  deriving DecidableEq, Repr

structure Poll where
  stopped : Bool := false
  subscription : Option Subscription := none
  deriving DecidableEq, Repr

namespace Poll

/-- Starts watching; `stamp` is that of the path at this moment. -/
def subscribe (poll : Poll) (path : String) (stamp : Stamp) : Except WatchFault Poll :=
  match poll.subscription with
  | some _ => .error (.alreadySubscribed path)
  | none =>
    match Target.ofPath path with
    | .error fault => .error fault
    | .ok _ => .ok { poll with subscription := some ⟨path, stamp⟩ }

def unsubscribe (poll : Poll) : Poll := { poll with subscription := none }

def stop (poll : Poll) : Poll := { poll with stopped := true }

/-- Compares the last stamp with the one of the path at this moment. -/
def look (poll : Poll) (stampOf : String → Stamp) : Outcome × Poll :=
  if poll.stopped then (.fault .closed, poll)
  else
    match poll.subscription with
    | none => (.fault .notSubscribed, poll)
    | some ⟨path, last⟩ =>
      if stampOf path = last then (.blocked, poll)
      else (.done, { poll with subscription := some ⟨path, stampOf path⟩ })

def backend : Backend Poll where
  subscribe workspace path poll := poll.subscribe path (workspace.stamp? path)
  unsubscribe := unsubscribe
  stop := stop
  observe _ poll := poll
  look workspace poll := poll.look workspace.stamp?

end Poll
end FirmwareTrace.Watch
