import FirmwareTrace.Decode.Pass

/-! # Following a growing input

A follow run alternates passes with waits on a watcher.  Every wait is preceded
by a flush; after a wait that was answered, decoding resumes at the offset where
the last pass stopped.  The run keeps a journal of the calls it makes.
-/
namespace FirmwareTrace
open Channel Decode

namespace Decode

/-- How the data of an input changes while the decoder waits. -/
inductive Change
  | none
  | append (octets : ByteArray)
  | replace (octets : ByteArray)
  | truncate (size : Nat)

def Change.apply : Change → ByteArray → ByteArray
  | .none, data => data
  | .append octets, data => data ++ octets
  | .replace octets, _ => octets
  | .truncate size, data => data.extract 0 size

/-- What one wait of the watcher comes to. -/
inductive Signal
  | modified (change : Change)
  | failure (fault : WatchFault)

/-- The calls of a follow run. -/
inductive Call
  | subscribe
  /-- A pass: its items, the octets it wrote, how far it read, and the offset it ended
  at unless it failed. -/
  | pass (items : List Item) (written : ByteArray) (seen : Nat) (ending : Except IoFault Nat)
  | flush
  | wait
  | unsubscribe

structure Following where
  journal : List Call
  input : Input
  sink : Sink
  items : List Item
  outcome : Except Failure Stats

def Following.precede (calls : List Call) (following : Following) : Following :=
  { following with journal := calls ++ following.journal }

/-- A pass of a follow run, and all up to the wait after it.  `items` and the
statistics are those of the whole run so far. -/
structure Leg where
  calls : List Call
  input : Input
  sink : Sink
  items : List Item
  outcome : Except Failure Stats

/-- The run that ends with this leg. -/
def Leg.close (leg : Leg) (outcome : Except Failure Stats) : Following :=
  ⟨leg.calls, leg.input, leg.sink, leg.items, outcome⟩

end Decode

namespace Decoder

variable {Header Literal : Type} (decoder : Decoder Header Literal)

/-- Runs a pass after those that found `items`, and flushes if it completes. -/
def leg (input : Input) (sink : Sink) (items : List Item) : Leg :=
  let pass := decoder.pass input sink
  let written := pass.sink.written.extract sink.written.size pass.sink.written.size
  let call := Call.pass pass.items written pass.seen pass.ending
  let items := items ++ pass.items
  match pass.ending with
  | .error fault => ⟨[call], pass.input, pass.sink, items, .error (.io fault)⟩
  | .ok offset =>
    ⟨[call, .flush, .wait], pass.input, pass.sink.flush, items, .ok (Stats.ofItems items offset)⟩

/-- Passes and waits, once subscribed.  The signals answer the waits in order; when
there are none left the watcher is closed. -/
def followSubscribed : List Signal → Input → Sink → List Item → Following
  | [], input, sink, items =>
    let leg := decoder.leg input sink items
    leg.close leg.outcome
  | signal :: rest, input, sink, items =>
    let leg := decoder.leg input sink items
    match leg.outcome, signal with
    | .error failure, _ => leg.close (.error failure)
    | .ok stats, .failure .closed => leg.close (.ok stats)
    | .ok _, .failure fault => leg.close (.error (.watch fault))
    | .ok stats, .modified change =>
      let input := (leg.input.mapData change.apply).seek stats.endOffset
      (followSubscribed rest input leg.sink leg.items).precede leg.calls

/-- Follows an input.  `refusal` is the watcher's answer to the subscription when
it does not accept it. -/
def follow (input : Input) (sink : Sink) (refusal : Option WatchFault) (signals : List Signal) :
    Following :=
  match refusal with
  | some fault => ⟨[.subscribe], input, sink, [], .error (.watch fault)⟩
  | none =>
    let run := decoder.followSubscribed signals input sink []
    { run with journal := .subscribe :: run.journal ++ [.unsubscribe] }

end Decoder
end FirmwareTrace
