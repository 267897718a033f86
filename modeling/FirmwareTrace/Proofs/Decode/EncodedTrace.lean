import FirmwareTrace.Proofs.Decode.PlainScan
import FirmwareTrace.Proofs.Record.Encoding
import FirmwareTrace.Session.Basic

/-! # Decoding a trace that was written

A trace is written as a list of parts, each a record or a word that starts none, and
breaks off inside one more record.  The scan takes every part by its own size and so
comes to the next one, `scan_octets`; decoding renders the records from what they were
written from and marks each word, `decode_written`.
-/
namespace FirmwareTrace
open Channel Decode RecordFormat.Writer

namespace RecordFormat.Writer

variable {Header Literal : Type} {format : RecordFormat Header Literal} (writer : format.Writer)

def octets (fields : writer.Fields) : List UInt8 :=
  format.encode (writer.header fields) ++ Bytes.ofWords (writer.payload fields)

/-- A part of a trace: a record with the literal that it selects, or a word at which no
record is found, for a reason. -/
inductive Part
  | record (fields : writer.Fields) (literal : Literal)
  | garbage (word : UInt32) (why : Unresolved)

namespace Part

variable {writer}

def octets : writer.Part → List UInt8
  | .record fields _ => writer.octets fields
  | .garbage word _ => Bytes.toLittleEndian wordSize word.toNat

def item (offset : Nat) : writer.Part → Item
  | .record fields literal =>
    ⟨offset, (writer.octets fields).length, .ok (writer.render fields literal)⟩
  | .garbage _ why => ⟨offset, wordSize, .error why⟩

/-- What is written for a part. -/
def text (offset : Nat) : writer.Part → String
  | .record fields literal => (writer.render fields literal).text
  | .garbage _ _ => Item.marker offset

def isRecord : writer.Part → Bool
  | .record _ _ => true
  | .garbage _ _ => false

def isOverflow : writer.Part → Bool
  | .record fields literal => (writer.render fields literal).overflowed
  | .garbage _ _ => false

/-- What makes a part one of its kind, in front of the octets that follow it.  The record
that seems to start at a garbage word may reach into them. -/
def Fits (libraries : Libraries Literal) (rest : List UInt8) : writer.Part → Prop
  | .record fields literal =>
    libraries.resolve (writer.library fields) (writer.key fields) = .ok literal
  | .garbage word why => ∃ record,
    format.record? (Bytes.toLittleEndian wordSize word.toNat ++ rest) = some record ∧
      (Decoder.mk format libraries).literalFor (format.parse (record.take format.headerSize))
        = .error why

end Part

variable {writer}

/-- Parts with their offsets, the first of them at the given one. -/
def placed : Nat → List writer.Part → List (Nat × writer.Part)
  | _, [] => []
  | offset, part :: parts => (offset, part) :: placed (offset + part.octets.length) parts

/-- Each part is one of its kind in front of those after it and a tail. -/
def AllFit (libraries : Libraries Literal) (tail : List UInt8) : List writer.Part → Prop
  | [] => True
  | part :: parts =>
    part.Fits libraries (parts.flatMap Part.octets ++ tail) ∧ AllFit libraries tail parts

@[simp] theorem map_snd_placed (offset : Nat) (parts : List writer.Part) :
    (placed offset parts).map Prod.snd = parts := by
  induction parts generalizing offset with
  | nil => rfl
  | cons part parts ih => rw [placed, List.map_cons, ih]

/-- What the items of the parts are counted by, when it does not depend on where they are. -/
theorem countP_placed {test : Item → Bool} {property : writer.Part → Bool}
    (h : ∀ offset part, test (part.item offset) = property part) (offset : Nat)
    (parts : List writer.Part) :
    ((placed offset parts).map fun place => place.2.item place.1).countP test
      = parts.countP property := by
  have hsame : (test ∘ fun place : Nat × writer.Part => place.2.item place.1)
      = property ∘ Prod.snd := by
    funext place
    exact h place.1 place.2
  rw [List.countP_map, hsame, ← List.countP_map, map_snd_placed]

theorem ofItems_placed (offset endOffset : Nat) (parts : List writer.Part) :
    Stats.ofItems ((placed offset parts).map fun place => place.2.item place.1) endOffset =
      ⟨parts.countP Part.isRecord, parts.countP fun part => !part.isRecord,
        parts.countP Part.isOverflow, endOffset⟩ := by
  have hrecord (offset : Nat) (part : writer.Part) :
      (part.item offset).isRendered = part.isRecord := by
    cases part <;> rfl
  have hoverflow (offset : Nat) (part : writer.Part) :
      (part.item offset).isOverflow = part.isOverflow := by
    cases part <;> rfl
  rw [Stats.ofItems, countP_placed hrecord, countP_placed hoverflow,
    countP_placed fun offset part => congrArg not (hrecord offset part)]

theorem text_placed (offset : Nat) (parts : List writer.Part) :
    ((placed offset parts).map fun place => place.2.item place.1).map Item.text
      = (placed offset parts).map fun place => place.2.text place.1 := by
  rw [List.map_map]
  refine List.map_congr_left fun place _ => ?_
  rcases place with ⟨offset, part⟩
  cases part <;> rfl

variable (writer)

/-- A trace that breaks off inside a record. -/
structure Trace (libraries : Libraries Literal) where
  parts : List writer.Part
  /-- The record that is not all there. -/
  next : writer.Fields
  tail : List UInt8
  fit : AllFit libraries tail parts
  tail_cut : tail <+: writer.octets next
  tail_ne : tail ≠ writer.octets next

namespace Trace

variable {writer} {libraries : Libraries Literal} (trace : writer.Trace libraries)

def octets : List UInt8 := trace.parts.flatMap Part.octets ++ trace.tail

/-- Where the tail starts in a trace that starts at an offset. -/
def endOffset (offset : Nat) : Nat := offset + (trace.parts.flatMap Part.octets).length

end Trace

theorem headD_octets (fields : writer.Fields) :
    (writer.octets fields).headD 0 = (format.encode (writer.header fields)).headD 0 := by
  apply RecordFormat.headD_append
  rw [writer.length_encode]
  exact Nat.lt_of_lt_of_le (by decide) format.wordSize_le_headerSize

theorem recordSize_octets (fields : writer.Fields) :
    format.recordSize ((writer.octets fields).headD 0) = (writer.octets fields).length := by
  rw [headD_octets, RecordFormat.recordSize, RecordFormat.payloadSize,
    writer.payloadWords_encode, octets, List.length_append, writer.length_encode,
    Bytes.length_ofWords]

/-- A record that was written is found, whatever follows it. -/
theorem record?_octets (fields : writer.Fields) (rest : List UInt8) :
    format.record? (writer.octets fields ++ rest) = some (writer.octets fields) := by
  apply format.record?_append
  rw [format.record?_of_le (Nat.le_of_eq (writer.recordSize_octets fields)),
    writer.recordSize_octets, List.take_length]

/-- A record that breaks off is not found. -/
theorem record?_of_prefix {fields : writer.Fields} {tail : List UInt8}
    (hcut : tail <+: writer.octets fields) (hne : tail ≠ writer.octets fields) :
    format.record? tail = none := by
  obtain ⟨rest, hrest⟩ := hcut
  cases tail with
  | nil => rfl
  | cons first more =>
    apply format.record?_of_lt
    have hfirst : (first :: more).headD 0 = (writer.octets fields).headD 0 := by
      rw [← hrest]
      rfl
    have hpos : 0 < rest.length := by
      refine List.length_pos_iff.2 fun hnil => hne ?_
      rwa [hnil, List.append_nil] at hrest
    rw [hfirst, writer.recordSize_octets, ← hrest, List.length_append]
    omega

theorem take_octets (fields : writer.Fields) :
    (writer.octets fields).take format.headerSize = format.encode (writer.header fields) := by
  rw [octets, ← writer.length_encode fields, List.take_left]

theorem drop_octets (fields : writer.Fields) :
    (writer.octets fields).drop format.headerSize = Bytes.ofWords (writer.payload fields) := by
  rw [octets, ← writer.length_encode fields, List.drop_left]

end RecordFormat.Writer

namespace Decoder

variable {Header Literal : Type} {decoder : Decoder Header Literal}
  {writer : decoder.format.Writer}

/-- A record that was written is rendered from what it was written from. -/
theorem item_octets {fields : writer.Fields} {literal : Literal} (offset : Nat)
    (hliteral : decoder.libraries.resolve (writer.library fields) (writer.key fields)
      = .ok literal) :
    decoder.item offset (writer.octets fields) =
      ⟨offset, (writer.octets fields).length, .ok (writer.render fields literal)⟩ := by
  have hfor : decoder.literalFor (writer.header fields) = .ok literal := by
    rw [decoder.literalFor_of_valid (writer.isValid_header fields), writer.libraryId_header,
      writer.key_header, hliteral]
  simp only [item, writer.take_octets, writer.drop_octets, writer.parse_encode, hfor,
    Bytes.words_ofWords, writer.render_header]

/-- A part is found at its offset, in front of whatever makes it one of its kind. -/
theorem scan_part {part : writer.Part} {rest : List UInt8} (offset : Nat)
    (h : part.Fits decoder.libraries rest) :
    decoder.scan offset (part.octets ++ rest) =
      (decoder.scan (offset + part.octets.length) rest).prepend [part.item offset] := by
  cases part with
  | record fields literal =>
    have hitem := decoder.item_octets offset h
    rw [RecordFormat.Writer.Part.octets,
      decoder.scan_of_some offset (writer.record?_octets fields rest), hitem, List.drop_left]
    rfl
  | garbage word why =>
    obtain ⟨record, hrecord, hwhy⟩ := h
    have hitem : decoder.item offset record = ⟨offset, wordSize, .error why⟩ := by
      simp only [item]
      rw [hwhy]
    -- what seemed to be a record may be longer, but one word is all that is taken of it
    have hdrop : (Bytes.toLittleEndian wordSize word.toNat ++ rest).drop wordSize = rest :=
      List.drop_left' (Bytes.length_toLittleEndian _ _)
    rw [RecordFormat.Writer.Part.octets, decoder.scan_of_some offset hrecord, hitem, hdrop,
      Bytes.length_toLittleEndian]
    rfl

/-- The induction on the parts. -/
theorem scan_parts {parts : List writer.Part} {tail : List UInt8} (offset : Nat)
    (hfit : AllFit decoder.libraries tail parts) (htail : decoder.format.record? tail = none) :
    decoder.scan offset (parts.flatMap Part.octets ++ tail) =
      ⟨(placed offset parts).map fun place => place.2.item place.1,
        offset + (parts.flatMap Part.octets).length⟩ := by
  induction parts generalizing offset with
  | nil => exact decoder.scan_of_none offset htail
  | cons part parts ih =>
    obtain ⟨hpart, hparts⟩ := hfit
    rw [List.flatMap_cons, List.append_assoc, decoder.scan_part offset hpart, ih _ hparts,
      List.length_append, ← Nat.add_assoc]
    rfl

theorem scan_octets (trace : writer.Trace decoder.libraries) (offset : Nat) :
    decoder.scan offset trace.octets =
      ⟨(placed offset trace.parts).map fun place => place.2.item place.1,
        trace.endOffset offset⟩ :=
  decoder.scan_parts offset trace.fit (writer.record?_of_prefix trace.tail_cut trace.tail_ne)

theorem decode_octets {input : Input} {sink : Sink} (trace : writer.Trace decoder.libraries)
    (hinput : input.Coherent) (hscript : ∀ step ∈ input.script, step.Productive)
    (hroom : sink.room = none) (htrace : input.octets.drop input.position = trace.octets) :
    ∃ last : Input, decoder.decode input sink =
      ⟨last.rewind (trace.endOffset input.position),
        (sink.offer (String.join ((placed input.position trace.parts).map fun place =>
          place.2.text place.1))).flush,
        (placed input.position trace.parts).map fun place => place.2.item place.1,
        .ok ⟨trace.parts.countP Part.isRecord, trace.parts.countP fun part => !part.isRecord,
          trace.parts.countP Part.isOverflow, trace.endOffset input.position⟩⟩ := by
  obtain ⟨last, hdecode⟩ := decoder.decode_eq_scan hinput hscript hroom
  rw [htrace, decoder.scan_octets, Scan.text, ofItems_placed, text_placed] at hdecode
  exact ⟨last, hdecode⟩

end Decoder

namespace SourceFormat

def writer : (format : SourceFormat) → format.records.Writer
  | .csv => Spt.writer
  | .elf => Icl.writer

variable {input : Input} {sink : Sink}

/-- Decoding a trace that was written renders its records from what they were written
from, in order, marks every other word with its offset, and ends where the trace breaks
off. -/
theorem decode_written (format : SourceFormat) (libraries : Libraries format.Literal)
    (trace : format.writer.Trace libraries) (hinput : input.Coherent)
    (hscript : ∀ step ∈ input.script, step.Productive) (hroom : sink.room = none)
    (htrace : input.octets.drop input.position = trace.octets) :
    let run := Decoder.decode ⟨format.records, libraries⟩ input sink
    let found := placed input.position trace.parts
    run.items = found.map (fun place => place.2.item place.1) ∧
      run.sink.written = sink.written
        ++ (String.join (found.map fun place => place.2.text place.1)).toUTF8 ∧
      run.outcome = .ok ⟨trace.parts.countP Part.isRecord,
        trace.parts.countP fun part => !part.isRecord, trace.parts.countP Part.isOverflow,
        trace.endOffset input.position⟩ ∧
      run.input.position = trace.endOffset input.position := by
  intro run found
  have hdecode : ∃ last : Input, run = _ :=
    Decoder.decode_octets trace hinput hscript hroom htrace
  obtain ⟨last, hrun⟩ := hdecode
  rw [hrun]
  exact ⟨rfl, Sink.written_offer_of_room_eq_none hroom _, rfl, Input.position_rewind _ _⟩

def gainFields : Icl.Fields := ⟨2, 9, 77, [0xfffffffa], by decide, by decide, by decide⟩

/-- How `gainTrace` was written. -/
def gainParts : SourceFormat.elf.writer.Trace Decoder.gainDecoder.libraries where
  parts := [.garbage 0 .invalidHeader, .record gainFields Decoder.gainLiteral]
  next := gainFields
  tail := [0x91]
  fit := ⟨⟨(Bytes.octets Decoder.gainTrace).take 12, rfl, rfl⟩, rfl, trivial⟩
  tail_cut := by decide
  tail_ne := by decide

theorem decode_written_gain :
    let run := Decoder.decode ⟨SourceFormat.elf.records, Decoder.gainDecoder.libraries⟩
      Decoder.gainInput {}
    Decoder.gainInput.octets.drop 0 = gainParts.octets ∧
      run.items = [⟨0, 4, .error .invalidHeader⟩,
        ⟨4, 16, .ok (gainFields.render Decoder.gainLiteral)⟩] ∧
      (∃ overflows, run.outcome = .ok ⟨1, 1, overflows, 20⟩) ∧ run.input.position = 20 := by
  intro run
  have hroom : ({} : Sink).room = none := rfl
  have htrace : Decoder.gainInput.octets.drop 0 = gainParts.octets := rfl
  obtain ⟨hitems, -, houtcome, hposition⟩ :=
    decode_written .elf Decoder.gainDecoder.libraries gainParts Decoder.coherent_gainInput
      Decoder.productive_gainInput hroom htrace
  exact ⟨htrace, hitems, ⟨_, houtcome⟩, hposition⟩

end SourceFormat
end FirmwareTrace
