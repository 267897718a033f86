import FirmwareTrace.Proofs.Decode.EncodedTrace
import FirmwareTrace.Proofs.Decode.Rounds
import FirmwareTrace.Proofs.Image.Extraction
import FirmwareTrace.Proofs.Libraries.FirstDefinition
import FirmwareTrace.Proofs.SymbolCache.Contents
import FirmwareTrace.Proofs.SymbolCache.RoundTrip
import FirmwareTrace.Proofs.Template.Newline
import FirmwareTrace.Proofs.Text.Numerals
import FirmwareTrace.Session.Basic

/-! # The lines of a decoded text

Every literal of a symbol cache has a message that ends with a newline, and what is rendered
from an image is ended with one, so every item is written up to the end of a line.  This is
kept by every turn, by the passes that are made of turns and by the runs that are made of
passes, `decoded_lines`.
-/
namespace FirmwareTrace
open Channel Decode Text

/-! ## What a sink was offered -/

namespace Channel.Sink

theorem fst_write (sink : Sink) (text : String) : (sink.write text).1 = sink.offer text := by
  by_cases hfits : sink.Fits text
  · rw [write_of_fits hfits]
  · rw [write_of_not_fits hfits]

/-- A later state of a sink that was offered a text, and flushed any number of times. -/
structure Took (start : Sink) (text : String) (sink : Sink) : Prop where
  written : sink.written = start.written ++ start.share text
  room : sink.room = (start.offer text).room

theorem took_refl (sink : Sink) : sink.Took "" sink where
  written := by rw [← written_offer, offer_empty]
  room := by rw [offer_empty]

theorem Took.offer {start sink : Sink} {text : String} (h : start.Took text sink)
    (more : String) : start.Took (text ++ more) (sink.offer more) where
  written := by
    have hshare : sink.share more = (start.offer text).share more := by
      rw [share, share, h.room]
    rw [← written_offer, offer_append, written_offer, written_offer, written_offer, h.written,
      hshare]
  room := by
    rw [offer_append, Sink.offer, h.room]
    rfl

theorem Took.flush {start sink : Sink} {text : String} (h : start.Took text sink) :
    start.Took text sink.flush := ⟨h.written, h.room⟩

end Channel.Sink

/-! ## What every written item keeps -/

namespace Decode.Turn

/-- The state that a turn comes to. -/
def progress : Turn → Progress
  | .again progress => progress
  | .ended progress => progress
  | .failed progress _ => progress

end Decode.Turn

namespace Decoder

variable {Header Literal : Type} (decoder : Decoder Header Literal)

/-- A property of the sink and the items so far, the latest first, that every item keeps when
it is written. -/
def Keeps (property : Sink → List Item → Prop) : Prop :=
  ∀ sink items offset record, property sink items →
    property (sink.offer (decoder.item offset record).text) (decoder.item offset record :: items)

variable {decoder} {property : Sink → List Item → Prop}

theorem Keeps.emit (hkeeps : decoder.Keeps property) {sink : Sink} {items : List Item}
    (h : property sink items) (input : Input) (window : Window) (size : Nat) :
    property (decoder.emit ⟨input, sink, window, items⟩ size).progress.sink
      (decoder.emit ⟨input, sink, window, items⟩ size).progress.items := by
  have hnext := hkeeps sink items window.offset (window.pending.take size) h
  rw [← Sink.fst_write] at hnext
  unfold Decoder.emit
  dsimp only
  split <;> exact hnext

/-- The step: reading leaves sink and items alone. -/
theorem Keeps.turn (hkeeps : decoder.Keeps property) {progress : Progress}
    (h : property progress.sink progress.items) :
    property (decoder.turn progress).progress.sink (decoder.turn progress).progress.items := by
  obtain ⟨input, sink, window, items⟩ := progress
  obtain ⟨-, mid, window', record, -, -, -, hturn⟩ | ⟨-, ending, last, window', -, -, -, hturn⟩ :=
    decoder.turn_cases input window
  · rw [hturn]
    exact hkeeps.emit h mid window' record.length
  · rw [hturn]
    cases ending <;> exact h

/-- The run, along its turns. -/
theorem Keeps.run (hkeeps : decoder.Keeps property) {progress : Progress}
    (h : property progress.sink progress.items) :
    property (decoder.run progress).1.sink (decoder.run progress).1.items := by
  have hturn {progress : Progress} (h : property progress.sink progress.items) {turn : Turn}
      (heq : decoder.turn progress = turn) :
      property turn.progress.sink turn.progress.items := heq ▸ hkeeps.turn h
  fun_induction Decoder.run decoder progress with
  | case1 progress next hnext _ ih => exact ih (hturn h hnext)
  | case2 progress last hlast => exact hturn h hlast
  | case3 progress last fault hlast => exact hturn h hlast

theorem Keeps.pass (hkeeps : decoder.Keeps property) (input : Input) {sink : Sink}
    (h : property sink []) :
    property (decoder.pass input sink).sink (decoder.pass input sink).items.reverse := by
  let start : Progress := ⟨input, sink, .ofOffset input.position decoder.format.maxRecordSize, []⟩
  have hstart : property start.sink start.items := h
  have hlast := hkeeps.run hstart
  unfold Decoder.pass
  dsimp only
  split <;> rw [List.reverse_reverse] <;> exact hlast

end Decoder

/-! ## Items that are whole lines -/

namespace Decode

/-- The text of the items, one after the other. -/
def textOf (items : List Item) : String := String.join (items.map Item.text)

theorem textOf_singleton (item : Item) : textOf [item] = item.text := by simp [textOf]

theorem textOf_append (front back : List Item) :
    textOf (front ++ back) = textOf front ++ textOf back := by
  simp [textOf]

/-- The items were offered to the sink in order, and each ends with a newline. -/
structure Lined (start : Sink) (items : List Item) (sink : Sink) : Prop where
  took : start.Took (textOf items) sink
  ends : ∀ item ∈ items, EndsLine item.text

theorem lined_nil (sink : Sink) : Lined sink [] sink := ⟨Sink.took_refl sink, nofun⟩

theorem Lined.flush {start sink : Sink} {items : List Item} (h : Lined start items sink) :
    Lined start items sink.flush := ⟨h.took.flush, h.ends⟩

theorem Lined.concat {start sink : Sink} {items : List Item} (h : Lined start items sink)
    {item : Item} (hitem : EndsLine item.text) :
    Lined start (items ++ [item]) (sink.offer item.text) where
  took := by
    rw [textOf_append, textOf_singleton]
    exact h.took.offer item.text
  ends := by
    simpa [or_imp, forall_and] using ⟨h.ends, hitem⟩

end Decode

namespace Decoder

variable {Header Literal : Type} {decoder : Decoder Header Literal} {start sink : Sink}
  {items : List Item}

section
variable (hitem : ∀ offset record, EndsLine (decoder.item offset record).text)
include hitem

theorem lined_pass (h : Lined start items sink) (input : Input) :
    Lined start (items ++ (decoder.pass input sink).items) (decoder.pass input sink).sink := by
  have hkeeps : decoder.Keeps fun sink found => Lined start (items ++ found.reverse) sink := by
    intro sink found offset record hfound
    rw [List.reverse_cons, ← List.append_assoc]
    exact hfound.concat (hitem offset record)
  have hstart : Lined start (items ++ [].reverse) sink := by
    rwa [List.reverse_nil, List.append_nil]
  have hpass := hkeeps.pass input hstart
  rwa [List.reverse_reverse] at hpass

theorem lined_decode (input : Input) (sink : Sink) :
    Lined sink (decoder.decode input sink).items (decoder.decode input sink).sink := by
  have hpass := lined_pass hitem (lined_nil sink) input
  rw [List.nil_append] at hpass
  unfold decode
  dsimp only
  split
  · exact hpass
  · exact hpass.flush

theorem lined_leg (h : Lined start items sink) (input : Input) :
    Lined start (decoder.leg input sink items).items (decoder.leg input sink items).sink := by
  have hpass := lined_pass hitem h input
  unfold leg
  dsimp only
  split
  · exact hpass
  · exact hpass.flush

/-- The run, along its signals. -/
theorem lined_followSubscribed (h : Lined start items sink) (signals : List Signal)
    (input : Input) :
    Lined start (decoder.followSubscribed signals input sink items).items
      (decoder.followSubscribed signals input sink items).sink := by
  induction signals generalizing input sink items with
  | nil => exact lined_leg hitem h input
  | cons signal rest ih =>
    have hleg := lined_leg hitem h input
    unfold followSubscribed
    dsimp only
    split
    · exact hleg
    · exact hleg
    · exact hleg
    · exact ih hleg _

theorem lined_follow (input : Input) (sink : Sink) (refusal : Option WatchFault)
    (signals : List Signal) :
    Lined sink (decoder.follow input sink refusal signals).items
      (decoder.follow input sink refusal signals).sink := by
  cases refusal with
  | some fault => exact lined_nil sink
  | none => exact lined_followSubscribed hitem (lined_nil sink) signals input

end
end Decoder

/-! ## Literals of sources -/

namespace SymbolCache

theorem endsLine_of_fields {fields : Fields} {literal : Spt.Literal}
    (h : fields.literal? = some literal) : EndsLine literal.message := by
  unfold Fields.literal? at h
  split at h
  · obtain rfl := Option.some.inj h
    rw [endsLine_iff, String.toList_ofList, List.getLast?_concat]
  · cases h

theorem endsLine_of_build {octets : List UInt8} {table : LiteralTable Spt.Literal}
    (hbuild : build octets = .ok table) {key : RecordKey} {literal : Spt.Literal}
    (h : table.get? key = some literal) : EndsLine literal.message := by
  obtain ⟨line, -, hline, -⟩ := exists_line_of_build hbuild h
  cases hline with
  | defines _ hliteral =>
    obtain ⟨fields, -, -, hliteral⟩ := hliteral
    exact endsLine_of_fields hliteral

end SymbolCache

namespace SourceFormat

/-- Tables that are built from sources, or merged of such. -/
inductive Built : (format : SourceFormat) → LiteralTable format.Literal → Prop
  | cache {octets : List UInt8} {table : LiteralTable Spt.Literal}
      (hbuild : SymbolCache.build octets = .ok table) : Built .csv table
  | image {bytes : ByteArray} {table : LiteralTable Icl.Literal}
      (hbuild : Image.build bytes = .ok table) : Built .elf table
  | merge {format : SourceFormat} {table other : LiteralTable format.Literal}
      (htable : Built format table) (hother : Built format other) : Built format (table.merge other)

/-- A message that stands at the end of a rendered record ends with a newline. -/
def Closes : (format : SourceFormat) → format.Literal → Prop
  | .csv, literal => EndsLine (Spt.Literal.message literal)
  | .elf, _ => True

theorem Built.closes {format : SourceFormat} {table : LiteralTable format.Literal}
    (h : format.Built table) {key : RecordKey} {literal : format.Literal}
    (hliteral : table.get? key = some literal) : format.Closes literal := by
  induction h with
  | cache hbuild => exact SymbolCache.endsLine_of_build hbuild hliteral
  | image hbuild => trivial
  | merge htable hother ihtable ihother =>
    rw [Table.get?_merge] at hliteral
    rcases Option.or_eq_some_iff.1 hliteral with hfirst | ⟨-, hsecond⟩
    · exact ihtable hfirst
    · exact ihother hsecond

theorem endsLine_render {format : SourceFormat} {literal : format.Literal}
    (h : format.Closes literal) (header : format.Header) (payload : List UInt32) :
    EndsLine (format.records.render header literal payload).text := by
  cases format with
  | csv => exact (Template.endsLine_format h payload).append _
  | elf => exact ⟨_, rfl⟩

/-- A marker ends with a newline, and a rendered record as its literal makes it. -/
theorem endsLine_item {format : SourceFormat} {filings : List (Libraries.Filing format.Literal)}
    (hbuilt : ∀ filing ∈ filings, format.Built filing.2) (offset : Nat) (record : List UInt8) :
    EndsLine (Decoder.item ⟨format.records, (∅ : Libraries format.Literal).insertAll filings⟩
      offset record).text := by
  unfold Decoder.item
  dsimp only
  split
  · rename_i literal hliteral
    apply endsLine_render
    unfold Decoder.literalFor at hliteral
    split at hliteral
    · rw [Libraries.resolve_eq_ok_iff, Libraries.literal?_insertAll] at hliteral
      obtain ⟨filing, hmem, hoffered⟩ := List.exists_of_findSome?_eq_some hliteral
      exact (hbuilt filing hmem).closes (Libraries.offered_eq_some_iff.1 hoffered).2
    · cases hliteral
  · exact ⟨_, rfl⟩

end SourceFormat

/-! ## The lines of a run -/

namespace Decode

/-- The marker of an unknown record is one line. -/
theorem exists_line_marker (offset : Nat) :
    ∃ line : String, '\n' ∉ line.toList ∧ Item.marker offset = line ++ "\n" := by
  refine ⟨_, ?_, rfl⟩
  intro hmem
  rw [String.toList_append] at hmem
  rcases List.mem_append.1 hmem with hword | hnumeral
  · exact absurd hword (by decide)
  · rw [String.toList_ofList] at hnumeral
    exact absurd (Numeral.isDigit_of_mem_decimal hnumeral) (by decide)

/-- Items that each end with a newline leave off at the start of a line. -/
theorem endsLine_textOf {items : List Item} (h : ∀ item ∈ items, EndsLine item.text) :
    items = [] ∨ EndsLine (textOf items) := by
  induction items with
  | nil => exact .inl rfl
  | cons item rest ih =>
    obtain ⟨hitem, hrest⟩ := List.forall_mem_cons.1 h
    refine .inr ?_
    rcases ih hrest with rfl | hends
    · rwa [textOf_singleton]
    · rw [← List.singleton_append, textOf_append]
      exact hends.append _

/-- What is written to a sink is a text of whole lines, as far as there is room for it. -/
structure LineStructured (start : Sink) (items : List Item) (sink : Sink) : Prop where
  written : sink.written = start.written ++ start.share (textOf items)
  ends : ∀ item ∈ items, EndsLine item.text
  /-- An item is the first, or the text in front of it ends with a newline. -/
  starts : ∀ front item back, items = front ++ item :: back →
    front = [] ∨ EndsLine (textOf front)
  /-- An unknown record is marked by a line. -/
  markers : ∀ item ∈ items, item.isRendered = false →
    ∃ line : String, '\n' ∉ line.toList ∧ item.text = line ++ "\n"

theorem Lined.lineStructured {start sink : Sink} {items : List Item}
    (h : Lined start items sink) : LineStructured start items sink where
  written := h.took.written
  ends := h.ends
  starts := by
    rintro front item back rfl
    exact endsLine_textOf fun earlier hmem => h.ends earlier (List.mem_append_left _ hmem)
  markers := by
    rintro ⟨offset, size, outcome⟩ - hmarker
    cases outcome with
    | ok rendered => cases hmarker
    | error why => exact exists_line_marker offset

end Decode

/-- Whatever sources the literals come from, and however the input is read and changed, each
item is written up to the end of a line, and each unknown record is marked by a line of its
own.  A template keeps the newline at its end. -/
theorem SourceFormat.decoded_lines (format : SourceFormat)
    (filings : List (Libraries.Filing format.Literal))
    (hbuilt : ∀ filing ∈ filings, format.Built filing.2) :
    let decoder : Decoder format.Header format.Literal :=
      ⟨format.records, (∅ : Libraries format.Literal).insertAll filings⟩
    (∀ input sink, LineStructured sink (decoder.decode input sink).items
      (decoder.decode input sink).sink) ∧
    (∀ input sink refusal signals,
      LineStructured sink (decoder.follow input sink refusal signals).items
        (decoder.follow input sink refusal signals).sink) ∧
    ∀ template words, EndsLine template → EndsLine (Template.format template words).text := by
  intro decoder
  have hitem : ∀ offset record, EndsLine (decoder.item offset record).text :=
    endsLine_item hbuilt
  exact ⟨fun input sink => (Decoder.lined_decode hitem input sink).lineStructured,
    fun input sink refusal signals =>
      (Decoder.lined_follow hitem input sink refusal signals).lineStructured,
    fun template words h => Template.endsLine_format h words⟩

namespace SourceFormat

/-- A record of the literal at line 42 of file 7. -/
def rateFields : Spt.Fields :=
  ⟨42, 7, 1, false, 0, 5, 3, 1000, [3, 48000], by decide, by decide, by decide, by decide⟩

/-- A word of no record, that record, and the first octet of another. -/
def rateTrace : ByteArray :=
  ⟨(Bytes.ofWords [0] ++ csv.writer.octets rateFields ++ [0xa9]).toArray⟩

def rateInput : Input := .direct ⟨rateTrace, 0, [.upTo 3, .interrupted]⟩

section
variable {libraries : Libraries Spt.Literal}
  (hliteral : libraries.resolve 3 (.ofLocation 7 42)
    = .ok (SymbolCache.stored (.ofLocation 7 42) SymbolCache.gainLiteral))
include hliteral

/-- How that trace was written, for libraries with the literal. -/
def rateParts : csv.writer.Trace libraries where
  parts := [.garbage 0 .invalidHeader,
    .record rateFields (SymbolCache.stored (.ofLocation 7 42) SymbolCache.gainLiteral)]
  next := rateFields
  tail := [0xa9]
  fit := ⟨⟨(Bytes.octets rateTrace).take 20, rfl, rfl⟩, hliteral, trivial⟩
  tail_cut := by decide
  tail_ne := by decide

theorem texts_rateInput :
    (Decoder.decode ⟨Spt.format, libraries⟩ rateInput {}).items.map Item.text =
      ["Unknown record at position: 0\n",
        "1000: 1 5,0 dsp.c(42): INFO gain 3, \"rate\" 48000\n"] := by
  have hscript : ∀ step ∈ rateInput.script, step.Productive := by
    simp [rateInput, Input.script, Input.stream, ReadStep.Productive]
  have htrace : rateInput.octets.drop rateInput.position = (rateParts hliteral).octets := rfl
  have hroom : ({} : Sink).room = none := rfl
  have hcoherent : rateInput.Coherent := Input.coherent_direct _
  have hdecode : ∃ last : Input, Decoder.decode ⟨Spt.format, libraries⟩ rateInput {} = _ :=
    Decoder.decode_octets (rateParts hliteral) hcoherent hscript hroom htrace
  have htext : (rateFields.render
      (SymbolCache.stored (.ofLocation 7 42) SymbolCache.gainLiteral)).text
        = "1000: 1 5,0 dsp.c(42): INFO gain 3, \"rate\" 48000\n" := by decide +kernel
  obtain ⟨last, hrun⟩ := hdecode
  rw [hrun]
  exact congrArg (fun text => [Item.marker 0, text]) htext

end
end SourceFormat

/-- A word of no record, then a record of a literal from a cache merged with itself. -/
theorem SourceFormat.decoded_lines_gainText : ∃ table,
    SymbolCache.build (SymbolCache.octets SymbolCache.gainText) = .ok table ∧
      (let decoder : Decoder Spt.Header Spt.Literal :=
        ⟨Spt.format, (∅ : Libraries Spt.Literal).insertAll [(3, table.merge table)]⟩
      let run := decoder.decode rateInput {}
      run.items.map Item.text = ["Unknown record at position: 0\n",
          "1000: 1 5,0 dsp.c(42): INFO gain 3, \"rate\" 48000\n"] ∧
        LineStructured {} run.items run.sink) ∧
      EndsLine (Template.format "50%\n" []).text := by
  obtain ⟨table, hbuild, hgain, -⟩ := SymbolCache.build_written_gainText
  have hmerged : SourceFormat.csv.Built (table.merge table) :=
    .merge (.cache hbuild) (.cache hbuild)
  have hbuilt : ∀ filing ∈ [((3 : LibraryId), table.merge table)],
      SourceFormat.csv.Built filing.2 := List.forall_mem_singleton.2 hmerged
  have hliteral : ((∅ : Libraries Spt.Literal).insertAll [(3, table.merge table)]).resolve 3
      (.ofLocation 7 42) = .ok (SymbolCache.stored (.ofLocation 7 42) SymbolCache.gainLiteral) := by
    have hget : (table.merge table).get? (.ofLocation 7 42)
        = some (SymbolCache.stored (.ofLocation 7 42) SymbolCache.gainLiteral) := by
      rw [Table.get?_merge, hgain, Option.some_or]
    rw [Libraries.resolve_eq_ok_iff]
    exact hget
  obtain ⟨hdecode, -, htemplate⟩ := SourceFormat.decoded_lines .csv _ hbuilt
  exact ⟨table, hbuild, ⟨texts_rateInput hliteral, hdecode _ _⟩, htemplate _ _ ⟨"50%", rfl⟩⟩

end FirmwareTrace
