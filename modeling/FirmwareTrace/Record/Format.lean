import FirmwareTrace.Bytes
import FirmwareTrace.Record.Key
import FirmwareTrace.Template.Render

/-! # Record formats

A trace is a dense sequence of records, each a header of fixed size and a
payload of 32-bit words.  The first header octet alone tells how long the
payload is, so a record's size is known before its header is read.
-/
namespace FirmwareTrace

/-- Octets of a payload word, and the step taken past an unknown record. -/
def wordSize : Nat := 4

/-- What the decode loop needs to know of one record format. -/
structure RecordFormat (Header Literal : Type) where
  name : String
  headerSize : Nat
  maxPayloadWords : Nat
  /-- The payload length that a first header octet declares. -/
  payloadWords : UInt8 → Nat
  parse : List UInt8 → Header
  encode : Header → List UInt8
  /-- Whether the header may be looked up at all. -/
  isValid : Header → Bool
  libraryId : Header → LibraryId
  key : Header → RecordKey
  render : Header → Literal → List UInt32 → Rendered
  wordSize_le_headerSize : wordSize ≤ headerSize
  payloadWords_le : ∀ octet, payloadWords octet ≤ maxPayloadWords

namespace RecordFormat

variable {Header Literal : Type} (format : RecordFormat Header Literal)

def payloadSize (first : UInt8) : Nat := format.payloadWords first * wordSize

/-- Header and payload together. -/
def recordSize (first : UInt8) : Nat := format.headerSize + format.payloadSize first

def maxRecordSize : Nat := format.headerSize + format.maxPayloadWords * wordSize

theorem recordSize_le (first : UInt8) : format.recordSize first ≤ format.maxRecordSize :=
  Nat.add_le_add_left (Nat.mul_le_mul_right _ (format.payloadWords_le first)) _

theorem headerSize_le_recordSize (first : UInt8) :
    format.headerSize ≤ format.recordSize first := Nat.le_add_right _ _

theorem wordSize_le_recordSize (first : UInt8) : wordSize ≤ format.recordSize first :=
  Nat.le_trans format.wordSize_le_headerSize (format.headerSize_le_recordSize first)

/-- The record at the front, if all of it is there. -/
def record? (octets : List UInt8) : Option (List UInt8) :=
  match octets with
  | [] => none
  | first :: _ =>
    let record := octets.take (format.recordSize first)
    if record.length < format.recordSize first then none else some record

theorem wordSize_le_of_record? {octets record : List UInt8}
    (h : format.record? octets = some record) :
    wordSize ≤ record.length ∧ record.length ≤ octets.length := by
  unfold record? at h
  split at h
  · simp at h
  · rename_i first more
    have := format.wordSize_le_recordSize first
    dsimp only at h
    split at h
    · simp at h
    · obtain rfl := Option.some.inj h
      simp only [List.length_take] at *
      omega

end RecordFormat
end FirmwareTrace
