import FirmwareTrace.Bytes
import FirmwareTrace.Failure

/-! # Input streams

A seekable stream of octets whose reads may be cut short, interrupted or failed
by a script, and the same stream behind a read-ahead buffer.  The script may also
let the data grow between two reads.  Once it is used up a read delivers all it is
asked for, up to the end of the data.
-/
namespace FirmwareTrace.Channel

/-- What happens to one read of the underlying stream, or before it. -/
inductive ReadStep
  | upTo (limit : Nat)
  | interrupted
  | failure (fault : IoFault)
  /-- Octets are added to the data, and the read goes on. -/
  | growth (octets : ByteArray)

inductive ReadResult
  /-- No octets at all mean the end of the data, for this read at least. -/
  | octets (part : List UInt8)
  | interrupted
  | failure (fault : IoFault)
  deriving DecidableEq, Repr

/-- Octets, the position of the next one, and the script of the reads to come. -/
structure Stream where
  data : ByteArray
  position : Nat := 0
  script : List ReadStep := []

/-- How many octets a script adds to the data. -/
def growthSize : List ReadStep → Nat
  | [] => 0
  | .growth octets :: script => octets.size + growthSize script
  | _ :: script => growthSize script

namespace Stream

/-- The octets from the position on. -/
def rest (stream : Stream) : List UInt8 := (Bytes.octets stream.data).drop stream.position

/-- Delivers up to `count` octets, whatever the script says. -/
def deliver (stream : Stream) (count : Nat) : ReadResult × Stream :=
  let part := Bytes.stretch stream.data stream.position count
  (.octets part, { stream with position := stream.position + part.length })

/-- A read that the given script applies to. -/
def readBy (stream : Stream) (count : Nat) : List ReadStep → ReadResult × Stream
  | [] => { stream with script := [] }.deliver count
  | .upTo limit :: script => { stream with script }.deliver (min count limit)
  | .interrupted :: script => (.interrupted, { stream with script })
  | .failure fault :: script => (.failure fault, { stream with script })
  | .growth octets :: script => { stream with data := stream.data ++ octets }.readBy count script

def read (stream : Stream) (count : Nat) : ReadResult × Stream := stream.readBy count stream.script

theorem deliver_eq (stream : Stream) (count : Nat) :
    stream.deliver count = (.octets (stream.rest.take count),
      { stream with position := stream.position + (stream.rest.take count).length }) := by
  simp only [deliver, rest, Bytes.stretch_eq]

/-- The number of octets from the position on, those to come included. -/
def unread (stream : Stream) : Nat :=
  stream.data.size + growthSize stream.script - stream.position

theorem length_rest (stream : Stream) :
    stream.rest.length = stream.data.size - stream.position := by
  simp [rest]

theorem unread_deliver (stream : Stream) (count : Nat) {part : List UInt8} {stream' : Stream}
    (h : stream.deliver count = (.octets part, stream')) :
    part.length + stream'.unread = stream.unread := by
  rw [deliver_eq] at h
  obtain ⟨h₁, rfl⟩ := Prod.mk.inj h
  obtain rfl := ReadResult.octets.inj h₁
  have := stream.length_rest
  simp only [unread, List.length_take] at *
  omega

theorem readBy_cases (stream : Stream) (count : Nat) (script : List ReadStep) :
    (∃ part stream', stream.readBy count script = (.octets part, stream') ∧
        part.length + stream'.unread = { stream with script }.unread ∧ part.length ≤ count ∧
        stream'.script.length ≤ script.length) ∨
      (∃ stream', stream.readBy count script = (.interrupted, stream') ∧
        stream'.unread = { stream with script }.unread ∧
        stream'.script.length < script.length) ∨
      (∃ fault stream', stream.readBy count script = (.failure fault, stream') ∧
        stream'.unread = { stream with script }.unread) := by
  induction script generalizing stream with
  | nil =>
    refine .inl ⟨_, _, rfl, unread_deliver _ _ rfl, ?_, Nat.le_refl _⟩
    rw [Bytes.stretch_eq, List.length_take]
    omega
  | cons step script ih =>
    match step with
    | .upTo limit =>
      refine .inl ⟨_, _, rfl, unread_deliver { stream with script } (min count limit) rfl, ?_,
        Nat.le_succ _⟩
      rw [Bytes.stretch_eq, List.length_take]
      omega
    | .interrupted => exact .inr (.inl ⟨_, rfl, rfl, Nat.lt_succ_self _⟩)
    | .failure fault => exact .inr (.inr ⟨_, _, rfl, rfl⟩)
    | .growth octets =>
      have hgrown : ({ stream with data := stream.data ++ octets, script } : Stream).unread
          = ({ stream with script := .growth octets :: script } : Stream).unread := by
        simp only [unread, growthSize, ByteArray.size_append, Nat.add_assoc]
      rw [← hgrown, readBy]
      rcases ih { stream with data := stream.data ++ octets } with
        ⟨part, s, h, hu, hl, hs⟩ | ⟨s, h, hu, hs⟩ | ⟨fault, s, h, hu⟩
      · exact .inl ⟨part, s, h, hu, hl, Nat.le_succ_of_le hs⟩
      · exact .inr (.inl ⟨s, h, hu, Nat.lt_succ_of_lt hs⟩)
      · exact .inr (.inr ⟨fault, s, h, hu⟩)

/-- What a read did to the stream: octets move the position over them, and an
interruption uses up a step of the script. -/
theorem read_cases (stream : Stream) (count : Nat) :
    (∃ part stream', stream.read count = (.octets part, stream') ∧
        part.length + stream'.unread = stream.unread ∧ part.length ≤ count ∧
        stream'.script.length ≤ stream.script.length) ∨
      (∃ stream', stream.read count = (.interrupted, stream') ∧ stream'.unread = stream.unread ∧
        stream'.script.length < stream.script.length) ∨
      (∃ fault stream', stream.read count = (.failure fault, stream') ∧
        stream'.unread = stream.unread) :=
  stream.readBy_cases count stream.script

end Stream

/-- Octets that a read-ahead buffer asks the stream for at once. -/
def readAhead : Nat := 8192

/-- A stream read directly, or through a buffer that holds octets already taken
from it. -/
inductive Input
  | direct (stream : Stream)
  | buffered (stream : Stream) (ahead : List UInt8)

namespace Input

def stream : Input → Stream
  | .direct stream | .buffered stream _ => stream

/-- The octets in the buffer. -/
def ahead : Input → List UInt8
  | .direct _ => []
  | .buffered _ ahead => ahead

def position (input : Input) : Nat := input.stream.position - input.ahead.length

/-- The number of octets that can still be read. -/
def unread (input : Input) : Nat := input.ahead.length + input.stream.unread

def scriptLength (input : Input) : Nat := input.stream.script.length

/-- Moves to an absolute position; a buffer is dropped. -/
def seek (position : Nat) : Input → Input
  | .direct stream => .direct { stream with position }
  | .buffered stream _ => .buffered { stream with position } []

/-- Exchanges the octets of the stream, and nothing else. -/
def mapData (f : ByteArray → ByteArray) : Input → Input
  | .direct stream => .direct { stream with data := f stream.data }
  | .buffered stream ahead => .buffered { stream with data := f stream.data } ahead

/-- An empty buffer is bypassed by a read that is at least as large. -/
def read (count : Nat) : Input → ReadResult × Input
  | .direct stream => ((stream.read count).1, .direct (stream.read count).2)
  | .buffered stream [] =>
    if readAhead ≤ count then ((stream.read count).1, .buffered (stream.read count).2 [])
    else
      match stream.read readAhead with
      | (.octets part, stream) => (.octets (part.take count), .buffered stream (part.drop count))
      | (.interrupted, stream) => (.interrupted, .buffered stream [])
      | (.failure fault, stream) => (.failure fault, .buffered stream [])
  | .buffered stream (octet :: more) =>
    (.octets ((octet :: more).take count), .buffered stream ((octet :: more).drop count))

/-- What a read did to the input; see `Stream.read_cases`. -/
theorem read_cases (input : Input) (count : Nat) :
    (∃ part input', input.read count = (.octets part, input') ∧
        part.length + input'.unread = input.unread ∧ part.length ≤ count ∧
        input'.scriptLength ≤ input.scriptLength) ∨
      (∃ input', input.read count = (.interrupted, input') ∧ input'.unread = input.unread ∧
        input'.scriptLength < input.scriptLength) ∨
      (∃ fault input', input.read count = (.failure fault, input') ∧
        input'.unread = input.unread) := by
  match input with
  | .direct s =>
    rcases s.read_cases count with ⟨part, s', h, hu, hl, hs⟩ | ⟨s', h, hu, hs⟩ | ⟨f, s', h, hu⟩
    · exact .inl ⟨part, .direct s', by simp [read, h], by simpa [unread, Input.stream, Input.ahead]
        using hu, hl, hs⟩
    · exact .inr (.inl ⟨.direct s', by simp [read, h], by simp [unread, Input.stream, Input.ahead, hu],
        hs⟩)
    · exact .inr (.inr ⟨f, .direct s', by simp [read, h],
        by simp [unread, Input.stream, Input.ahead, hu]⟩)
  | .buffered s [] =>
    by_cases hc : readAhead ≤ count
    · rcases s.read_cases count with ⟨part, s', h, hu, hl, hs⟩ | ⟨s', h, hu, hs⟩ | ⟨f, s', h, hu⟩
      · exact .inl ⟨part, .buffered s' [], by simp [read, h, hc],
          by simpa [unread, Input.stream, Input.ahead] using hu, hl, hs⟩
      · exact .inr (.inl ⟨.buffered s' [], by simp [read, h, hc],
          by simp [unread, Input.stream, Input.ahead, hu], hs⟩)
      · exact .inr (.inr ⟨f, .buffered s' [], by simp [read, h, hc],
          by simp [unread, Input.stream, Input.ahead, hu]⟩)
    · rcases s.read_cases readAhead with
        ⟨part, s', h, hu, hl, hs⟩ | ⟨s', h, hu, hs⟩ | ⟨f, s', h, hu⟩
      · refine .inl ⟨part.take count, .buffered s' (part.drop count), by simp [read, h, hc],
          ?_, by rw [List.length_take]; omega, hs⟩
        simp [unread, Input.stream, Input.ahead, List.length_take]
        omega
      · exact .inr (.inl ⟨.buffered s' [], by simp [read, h, hc],
          by simp [unread, Input.stream, Input.ahead, hu], hs⟩)
      · exact .inr (.inr ⟨f, .buffered s' [], by simp [read, h, hc],
          by simp [unread, Input.stream, Input.ahead, hu]⟩)
  | .buffered s (octet :: more) =>
    refine .inl ⟨(octet :: more).take count, .buffered s ((octet :: more).drop count), rfl, ?_,
      by simp only [List.length_take]; omega, Nat.le_refl _⟩
    simp only [unread, Input.stream, Input.ahead, List.length_take, List.length_drop]
    omega

end Input
end FirmwareTrace.Channel
