/-! # Output sinks

A sink keeps the octets written to it and counts its flushes.  One with limited
room takes what fits of a text that does not, and fails.
-/
namespace FirmwareTrace.Channel

structure Sink where
  written : ByteArray := .empty
  /-- How many more octets are accepted; no number means any. -/
  room : Option Nat := none
  flushes : Nat := 0

namespace Sink

/-- Writes a text, and says whether all of it was accepted. -/
def write (sink : Sink) (text : String) : Sink × Bool :=
  let octets := text.toUTF8
  match sink.room with
  | none => ({ sink with written := sink.written ++ octets }, true)
  | some room =>
    if octets.size ≤ room then
      ({ sink with written := sink.written ++ octets, room := some (room - octets.size) }, true)
    else ({ sink with written := sink.written ++ octets.extract 0 room, room := some 0 }, false)

def flush (sink : Sink) : Sink := { sink with flushes := sink.flushes + 1 }

end Sink
end FirmwareTrace.Channel
