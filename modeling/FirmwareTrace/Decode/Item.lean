import FirmwareTrace.Libraries
import FirmwareTrace.Record.Format

/-! # Decoded items

A decoder turns the octets of one record into one item: the rendering of the
literal that the header selects, or a marker for an unknown record.  A marker
takes one word, so that decoding resumes at the next possible record.
-/
namespace FirmwareTrace

/-- A record format and the literals its records select from. -/
structure Decoder (Header Literal : Type) where
  format : RecordFormat Header Literal
  libraries : Libraries Literal

namespace Decode

/-- What was found at an offset, and how many octets it takes. -/
structure Item where
  offset : Nat
  size : Nat
  outcome : Except Unresolved Rendered

namespace Item

def marker (offset : Nat) : String :=
  "Unknown record at position: " ++ String.ofList (Numeral.decimal offset) ++ "\n"

/-- The text written for the item. -/
def text (item : Item) : String :=
  match item.outcome with
  | .ok rendered => rendered.text
  | .error _ => marker item.offset

def isRendered (item : Item) : Bool :=
  match item.outcome with
  | .ok _ => true
  | .error _ => false

def isOverflow (item : Item) : Bool :=
  match item.outcome with
  | .ok rendered => rendered.overflowed
  | .error _ => false

end Item

/-- The counters of a decoding run. -/
structure Stats where
  rendered : Nat
  unknown : Nat
  overflows : Nat
  /-- The offset of the first octet not consumed. -/
  endOffset : Nat
  deriving DecidableEq, Repr

def Stats.ofItems (items : List Item) (endOffset : Nat) : Stats :=
  ⟨items.countP Item.isRendered, items.countP fun item => !item.isRendered,
    items.countP Item.isOverflow, endOffset⟩

end Decode

namespace Decoder

variable {Header Literal : Type} (decoder : Decoder Header Literal)
open Decode

/-- The literal that a header selects; an invalid header is not looked up. -/
def literalFor (header : Header) : Except Unresolved Literal :=
  if decoder.format.isValid header then
    decoder.libraries.resolve (decoder.format.libraryId header) (decoder.format.key header)
  else .error .invalidHeader

/-- The item at an offset, from all the octets of the record there. -/
def item (offset : Nat) (record : List UInt8) : Item :=
  let header := decoder.format.parse (record.take decoder.format.headerSize)
  match decoder.literalFor header with
  | .ok literal =>
    let payload := Bytes.words (record.drop decoder.format.headerSize)
    ⟨offset, record.length, .ok (decoder.format.render header literal payload)⟩
  | .error why => ⟨offset, wordSize, .error why⟩

theorem item_size_pos {offset : Nat} {record : List UInt8} (h : 0 < record.length) :
    0 < (decoder.item offset record).size := by
  unfold item
  dsimp only
  split
  · exact h
  · exact (by decide : 0 < wordSize)

end Decoder
end FirmwareTrace
