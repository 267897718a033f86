import FirmwareTrace.Channel.Sink
import FirmwareTrace.Decode.Item
import FirmwareTrace.Decode.Window

/-! # Decoding passes

A pass reads records through a window until the input holds no complete one, and
writes each item as it is found.  Octets read past the last complete record are
handed back by moving the input to the first octet that was not consumed.
-/
namespace FirmwareTrace
open Channel Decode

/-- The state between two records; the latest item comes first. -/
structure Decode.Progress where
  input : Input
  sink : Sink
  window : Window
  items : List Item

/-- What became of one turn of the decode loop. -/
inductive Decode.Turn
  | again (progress : Progress)
  /-- No complete record is left. -/
  | ended (progress : Progress)
  | failed (progress : Progress) (fault : IoFault)

/-- A finished pass, its items in order.  After a failed write the last item is
the one that was being written. -/
structure Decode.Pass where
  input : Input
  sink : Sink
  items : List Item
  /-- The offset of the first octet not read. -/
  seen : Nat
  /-- The offset of the first octet not consumed. -/
  ending : Except IoFault Nat

namespace Decode.Progress

/-- Octets not consumed yet, in the window and in the input. -/
def left (progress : Progress) : Nat :=
  progress.window.pending.length + progress.input.unread

def after (progress : Progress) (fill : Fill) : Progress :=
  { progress with window := fill.window, input := fill.input }

theorem left_after_fill (progress : Progress) (needed : Nat) :
    (progress.after (progress.window.fill progress.input needed)).left = progress.left :=
  Window.fill_total _ _ _

end Decode.Progress

namespace Decoder

variable {Header Literal : Type} (decoder : Decoder Header Literal)

/-- Writes the item of the record at the front of the window and consumes it. -/
def emit (progress : Progress) (size : Nat) : Turn :=
  let item := decoder.item progress.window.offset (progress.window.pending.take size)
  let written := progress.sink.write item.text
  let items := item :: progress.items
  if written.2 then
    .again ⟨progress.input, written.1, progress.window.consume item.size, items⟩
  else .failed { progress with sink := written.1, items } .shortWrite

/-- One turn: the header, then the whole record, then its item. -/
def turn (progress : Progress) : Turn :=
  let header := progress.window.fill progress.input decoder.format.headerSize
  let atHeader := progress.after header
  match header.outcome with
  | .error fault => .failed atHeader fault
  | .ok false => .ended atHeader
  | .ok true =>
    let size := decoder.format.recordSize (atHeader.window.pending.headD 0)
    let record := atHeader.window.fill atHeader.input size
    let atRecord := atHeader.after record
    match record.outcome with
    | .error fault => .failed atRecord fault
    | .ok false => .ended atRecord
    | .ok true => decoder.emit atRecord size

theorem left_emit_lt {progress next : Progress} {size : Nat} (hsize : 0 < size)
    (hle : size ≤ progress.window.pending.length) (h : decoder.emit progress size = .again next) :
    next.left < progress.left := by
  unfold emit at h
  dsimp only at h
  split at h
  · obtain rfl := Turn.again.inj h
    have hpos : 0 < (progress.window.pending.take size).length := by
      simp only [List.length_take]
      omega
    have hitem : 0 < (decoder.item progress.window.offset
        (progress.window.pending.take size)).size := decoder.item_size_pos hpos
    simp only [Progress.left, Window.length_pending_consume]
    omega
  · simp at h

theorem left_turn_lt {progress next : Progress} (h : decoder.turn progress = .again next) :
    next.left < progress.left := by
  unfold turn at h
  dsimp only at h
  split at h
  · simp at h
  · simp at h
  · split at h
    · simp at h
    · simp at h
    · rename_i hrecord
      have hle := Window.le_length_fill hrecord
      have hsize := decoder.format.wordSize_le_recordSize
        ((progress.after
          (progress.window.fill progress.input decoder.format.headerSize)).window.pending.headD 0)
      have := decoder.left_emit_lt (Nat.lt_of_lt_of_le (by decide) hsize) hle h
      rw [Progress.left_after_fill, Progress.left_after_fill] at this
      exact this

/-- Takes turns until no complete record is left, or until a read or write fails. -/
def run (progress : Progress) : Progress × Option IoFault :=
  match h : decoder.turn progress with
  | .again next =>
    have := decoder.left_turn_lt h
    run next
  | .ended last => (last, none)
  | .failed last fault => (last, some fault)
termination_by progress.left

/-- Decodes from the position of the input to its end. -/
def pass (input : Input) (sink : Sink) : Pass :=
  let window := Window.ofOffset input.position decoder.format.maxRecordSize
  let done := decoder.run ⟨input, sink, window, []⟩
  let last := done.1
  match done.2 with
  | some fault =>
    ⟨last.input, last.sink, last.items.reverse, last.input.position, .error fault⟩
  | none =>
    let input :=
      if last.window.pending.isEmpty then last.input else last.input.seek last.window.offset
    ⟨input, last.sink, last.items.reverse, last.input.position, .ok last.window.offset⟩

end Decoder

/-- The outcome of decoding an input once, and where it left both streams. -/
structure Decode.Decoding where
  input : Input
  sink : Sink
  items : List Item
  outcome : Except Failure Stats

/-- Decodes an input to its end and flushes the output. -/
def Decoder.decode {Header Literal : Type} (decoder : Decoder Header Literal) (input : Input)
    (sink : Sink) : Decoding :=
  let pass := decoder.pass input sink
  match pass.ending with
  | .error fault => ⟨pass.input, pass.sink, pass.items, .error (.io fault)⟩
  | .ok offset =>
    ⟨pass.input, pass.sink.flush, pass.items, .ok (Stats.ofItems pass.items offset)⟩

end FirmwareTrace
