import FirmwareTrace.Decode.Pass

/-! # The plain record scan

Decoding without streams: the items of a list of octets, read at ever later
offsets.  This is what a pass amounts to when nothing is said about buffers,
short reads and limited outputs.
-/
namespace FirmwareTrace

/-- The items of a scan and the offset it stopped at. -/
structure Decode.Scan where
  items : List Decode.Item
  endOffset : Nat

namespace Decoder

variable {Header Literal : Type} (decoder : Decoder Header Literal)

/-- Scans octets that start at the given offset. -/
def scan (offset : Nat) (octets : List UInt8) : Decode.Scan :=
  match _h : decoder.format.record? octets with
  | none => ⟨[], offset⟩
  | some record =>
    let item := decoder.item offset record
    let rest := scan (offset + item.size) (octets.drop item.size)
    ⟨item :: rest.items, rest.endOffset⟩
termination_by octets.length
decreasing_by
  have hrecord := decoder.format.wordSize_le_of_record? _h
  have hword : 0 < wordSize := by decide
  have hitem : 0 < (decoder.item offset record).size := decoder.item_size_pos (by omega)
  simp only [List.length_drop]
  omega

end Decoder
end FirmwareTrace
