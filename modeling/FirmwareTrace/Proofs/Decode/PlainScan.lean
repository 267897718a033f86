import FirmwareTrace.Proofs.Decode.Passing
import FirmwareTrace.Record.Icl

/-! # Decoding is the plain scan

`Scans` gives the rules of a scan over a whole trace, one for each thing that can
stand at an offset, and `scans_iff` says that exactly one list of items meets them.
Decoding with any productive reads and an output that takes everything finds these
items, `decode_refines_scan`; how the reads were cut leaves no mark.
-/
namespace FirmwareTrace.Decoder
open Channel Decode

variable {Header Literal : Type} (decoder : Decoder Header Literal)

def headerAt (octets : List UInt8) (offset : Nat) : Header :=
  decoder.format.parse ((octets.drop offset).take decoder.format.headerSize)

/-- The payload words of a record that declares its length in `first`. -/
def payloadAt (octets : List UInt8) (offset : Nat) (first : UInt8) : List UInt32 :=
  Bytes.words ((octets.drop (offset + decoder.format.headerSize)).take
    (decoder.format.payloadSize first))

/-- The items that a trace has from an offset on, and the offset of the first octet
that belongs to none of them. -/
inductive Scans (octets : List UInt8) : Nat → List Item → Nat → Prop
  /-- Fewer octets are left than a header takes. -/
  | noHeader {offset : Nat} (h : octets.length < offset + decoder.format.headerSize) :
      Scans octets offset [] offset
  /-- Fewer octets are left than the record declares. -/
  | noRecord {offset : Nat} {first : UInt8} (hfirst : octets[offset]? = some first)
      (h : octets.length < offset + decoder.format.recordSize first) : Scans octets offset [] offset
  /-- The header selects a literal, and its rendering takes the whole record. -/
  | rendered {offset last : Nat} {first : UInt8} {literal : Literal} {items : List Item}
      (hfirst : octets[offset]? = some first)
      (hsize : offset + decoder.format.recordSize first ≤ octets.length)
      (hvalid : decoder.format.isValid (decoder.headerAt octets offset) = true)
      (hliteral : decoder.libraries.resolve
        (decoder.format.libraryId (decoder.headerAt octets offset))
        (decoder.format.key (decoder.headerAt octets offset)) = .ok literal)
      (rest : Scans octets (offset + decoder.format.recordSize first) items last) :
      Scans octets offset
        (⟨offset, decoder.format.recordSize first,
          .ok (decoder.format.render (decoder.headerAt octets offset) literal
            (decoder.payloadAt octets offset first))⟩ :: items) last
  /-- The header is invalid, and a marker takes one word. -/
  | invalid {offset last : Nat} {first : UInt8} {items : List Item}
      (hfirst : octets[offset]? = some first)
      (hsize : offset + decoder.format.recordSize first ≤ octets.length)
      (hvalid : decoder.format.isValid (decoder.headerAt octets offset) = false)
      (rest : Scans octets (offset + wordSize) items last) :
      Scans octets offset (⟨offset, wordSize, .error .invalidHeader⟩ :: items) last
  /-- The header selects no literal, and a marker takes one word. -/
  | unresolved {offset last : Nat} {first : UInt8} {why : Unresolved} {items : List Item}
      (hfirst : octets[offset]? = some first)
      (hsize : offset + decoder.format.recordSize first ≤ octets.length)
      (hvalid : decoder.format.isValid (decoder.headerAt octets offset) = true)
      (hwhy : decoder.libraries.resolve
        (decoder.format.libraryId (decoder.headerAt octets offset))
        (decoder.format.key (decoder.headerAt octets offset)) = .error why)
      (rest : Scans octets (offset + wordSize) items last) :
      Scans octets offset (⟨offset, wordSize, .error why⟩ :: items) last

theorem parse_record (octets : List UInt8) (offset : Nat) (first : UInt8) :
    decoder.format.parse (((octets.drop offset).take (decoder.format.recordSize first)).take
      decoder.format.headerSize) = decoder.headerAt octets offset := by
  rw [List.take_take, Nat.min_eq_left (decoder.format.headerSize_le_recordSize first), headerAt]

theorem words_record (octets : List UInt8) (offset : Nat) (first : UInt8) :
    Bytes.words (((octets.drop offset).take (decoder.format.recordSize first)).drop
      decoder.format.headerSize) = decoder.payloadAt octets offset first := by
  rw [List.drop_take, List.drop_drop, RecordFormat.recordSize, Nat.add_sub_cancel_left, payloadAt]

/-- A complete record whose header selects a literal. -/
theorem item_of_ok {octets : List UInt8} {offset : Nat} {first : UInt8} {literal : Literal}
    (hsize : offset + decoder.format.recordSize first ≤ octets.length)
    (hliteral : decoder.literalFor (decoder.headerAt octets offset) = .ok literal) :
    decoder.item offset ((octets.drop offset).take (decoder.format.recordSize first)) =
      ⟨offset, decoder.format.recordSize first,
        .ok (decoder.format.render (decoder.headerAt octets offset) literal
          (decoder.payloadAt octets offset first))⟩ := by
  have hlength : ((octets.drop offset).take (decoder.format.recordSize first)).length
      = decoder.format.recordSize first := by
    rw [List.length_take, List.length_drop]
    omega
  simp only [item, parse_record, words_record, hlength, hliteral]

theorem item_of_error {octets : List UInt8} {offset : Nat} {first : UInt8} {why : Unresolved}
    (hwhy : decoder.literalFor (decoder.headerAt octets offset) = .error why) :
    decoder.item offset ((octets.drop offset).take (decoder.format.recordSize first)) =
      ⟨offset, wordSize, .error why⟩ := by
  simp only [item, parse_record, hwhy]

theorem literalFor_of_valid {header : Header} (h : decoder.format.isValid header = true) :
    decoder.literalFor header
      = decoder.libraries.resolve (decoder.format.libraryId header) (decoder.format.key header) :=
  if_pos h

theorem literalFor_of_invalid {header : Header} (h : decoder.format.isValid header = false) :
    decoder.literalFor header = .error .invalidHeader :=
  if_neg (Bool.eq_false_iff.1 h)

/-- The first octet of a record that was found, and how far the record goes. -/
theorem first_of_record? {octets record : List UInt8} {offset : Nat}
    (h : decoder.format.record? (octets.drop offset) = some record) :
    ∃ first, octets[offset]? = some first ∧
      offset + decoder.format.recordSize first ≤ octets.length ∧
      record = (octets.drop offset).take (decoder.format.recordSize first) := by
  obtain ⟨hle, hrecord⟩ := decoder.format.record?_eq_some h
  have hpos := decoder.format.recordSize_pos ((octets.drop offset).headD 0)
  rw [List.length_drop] at hle
  have hlt : offset < octets.length := by omega
  rw [List.drop_eq_getElem_cons hlt, List.headD_cons] at hle
  rw [List.drop_eq_getElem_cons hlt, List.headD_cons, ← List.drop_eq_getElem_cons hlt] at hrecord
  exact ⟨octets[offset], List.getElem?_eq_getElem hlt, by omega, hrecord⟩

theorem record?_of_first {octets : List UInt8} {offset : Nat} {first : UInt8}
    (hfirst : octets[offset]? = some first) :
    (offset + decoder.format.recordSize first ≤ octets.length →
      decoder.format.record? (octets.drop offset)
        = some ((octets.drop offset).take (decoder.format.recordSize first))) ∧
    (octets.length < offset + decoder.format.recordSize first →
      decoder.format.record? (octets.drop offset) = none) := by
  obtain ⟨hlt, rfl⟩ := List.getElem?_eq_some_iff.1 hfirst
  have hhead : (octets.drop offset).headD 0 = octets[offset] := by
    rw [List.drop_eq_getElem_cons hlt, List.headD_cons]
  constructor <;> intro h
  · have hle : decoder.format.recordSize ((octets.drop offset).headD 0)
        ≤ (octets.drop offset).length := by
      rw [hhead, List.length_drop]
      omega
    rw [decoder.format.record?_of_le hle, hhead]
  · apply decoder.format.record?_of_lt
    rw [hhead, List.length_drop]
    omega

/-- The scan of a trace meets the rules. -/
theorem scans_scan (octets : List UInt8) (offset : Nat) :
    decoder.Scans octets offset (decoder.scan offset (octets.drop offset)).items
      (decoder.scan offset (octets.drop offset)).endOffset := by
  generalize hrest : octets.drop offset = rest
  induction offset, rest using decoder.scan_induction with
  | none offset rest h =>
    rw [decoder.scan_of_none offset h]
    cases hfirst : octets[offset]? with
    | none =>
      have hle := List.getElem?_eq_none_iff.1 hfirst
      have hword := decoder.format.wordSize_le_headerSize
      exact .noHeader (Nat.lt_of_le_of_lt hle (Nat.lt_add_of_pos_right
        (Nat.lt_of_lt_of_le (by decide) hword)))
    | some first =>
      refine .noRecord hfirst (Nat.lt_of_not_le fun hle => ?_)
      rw [← hrest, (decoder.record?_of_first hfirst).1 hle] at h
      cases h
  | some offset rest record h ih =>
    subst hrest
    obtain ⟨first, hfirst, hsize, rfl⟩ := decoder.first_of_record? h
    rw [decoder.scan_of_some offset h]
    rw [List.drop_drop] at ih ⊢
    have hrest := ih rfl
    cases hvalid : decoder.format.isValid (decoder.headerAt octets offset) with
    | false =>
      have hwhy := decoder.literalFor_of_invalid hvalid
      rw [decoder.item_of_error hwhy] at hrest ⊢
      exact .invalid hfirst hsize hvalid hrest
    | true =>
      have hfor := decoder.literalFor_of_valid hvalid
      cases hliteral : decoder.libraries.resolve
          (decoder.format.libraryId (decoder.headerAt octets offset))
          (decoder.format.key (decoder.headerAt octets offset)) with
      | ok literal =>
        rw [decoder.item_of_ok hsize (hfor.trans hliteral)] at hrest ⊢
        exact .rendered hfirst hsize hvalid hliteral hrest
      | error why =>
        rw [decoder.item_of_error (hfor.trans hliteral)] at hrest ⊢
        exact .unresolved hfirst hsize hvalid hliteral hrest

/-- Nothing but the scan of a trace meets the rules. -/
theorem Scans.scan_eq {octets : List UInt8} {offset last : Nat} {items : List Item}
    (h : decoder.Scans octets offset items last) :
    decoder.scan offset (octets.drop offset) = ⟨items, last⟩ := by
  induction h with
  | noHeader h =>
    apply decoder.scan_of_none
    apply decoder.format.record?_of_lt
    rw [List.length_drop]
    have hle := decoder.format.headerSize_le_recordSize ((octets.drop ‹Nat›).headD 0)
    have hpos := decoder.format.recordSize_pos ((octets.drop ‹Nat›).headD 0)
    omega
  | noRecord hfirst h => exact decoder.scan_of_none _ ((decoder.record?_of_first hfirst).2 h)
  | rendered hfirst hsize hvalid hliteral _ ih =>
    have hfor := (decoder.literalFor_of_valid hvalid).trans hliteral
    rw [decoder.scan_of_some _ ((decoder.record?_of_first hfirst).1 hsize),
      decoder.item_of_ok hsize hfor, List.drop_drop, ih]
    rfl
  | invalid hfirst hsize hvalid _ ih =>
    have hfor := decoder.literalFor_of_invalid hvalid
    rw [decoder.scan_of_some _ ((decoder.record?_of_first hfirst).1 hsize),
      decoder.item_of_error hfor, List.drop_drop, ih]
    rfl
  | unresolved hfirst hsize hvalid hwhy _ ih =>
    have hfor := (decoder.literalFor_of_valid hvalid).trans hwhy
    rw [decoder.scan_of_some _ ((decoder.record?_of_first hfirst).1 hsize),
      decoder.item_of_error hfor, List.drop_drop, ih]
    rfl

theorem scans_iff {octets : List UInt8} {offset last : Nat} {items : List Item} :
    decoder.Scans octets offset items last ↔
      items = (decoder.scan offset (octets.drop offset)).items ∧
        last = (decoder.scan offset (octets.drop offset)).endOffset := by
  constructor
  · intro h
    rw [h.scan_eq]
    exact ⟨rfl, rfl⟩
  · rintro ⟨rfl, rfl⟩
    exact decoder.scans_scan octets offset

variable {decoder} {input : Input} {sink : Sink}

/-- Decoding that completes flushes once and leaves the input at the end of the scan. -/
theorem decode_of_passesTo {plain : Scan} {last : Input}
    (h : decoder.PassesTo input sink plain none last) (hfits : sink.Fits plain.text) :
    decoder.decode input sink =
      ⟨last.rewind plain.endOffset, (sink.offer plain.text).flush, plain.items,
        .ok (Stats.ofItems plain.items plain.endOffset)⟩ := by
  simp only [decode, h.ended hfits rfl]

/-- Productive reads and an output that takes everything decode the whole input. -/
theorem decode_eq_scan (hinput : input.Coherent)
    (hscript : ∀ step ∈ input.script, step.Productive) (hroom : sink.room = none) :
    ∃ last : Input, decoder.decode input sink =
      ⟨last.rewind (decoder.scan input.position (input.octets.drop input.position)).endOffset,
        (sink.offer (decoder.scan input.position (input.octets.drop input.position)).text).flush,
        (decoder.scan input.position (input.octets.drop input.position)).items,
        .ok (Stats.ofItems
          (decoder.scan input.position (input.octets.drop input.position)).items
          (decoder.scan input.position (input.octets.drop input.position)).endOffset)⟩ := by
  obtain ⟨part, ending, last, drains, hpasses⟩ := decoder.exists_drains_pass hinput
  obtain rfl := (drains.of_harmless hinput fun s hs => (hscript s hs).harmless).1
  rw [← drains.eq_of_productive hinput hscript]
  exact ⟨last, decode_of_passesTo (hpasses sink) (Sink.fits_of_room_eq_none hroom _)⟩

variable (decoder)

/-- Decoding terminates with the items of the plain scan, their text and statistics,
and leaves the input at the end of the last of them, however its reads are cut. -/
theorem decode_refines_scan (hinput : input.Coherent)
    (hscript : ∀ step ∈ input.script, step.Productive) (hroom : sink.room = none) :
    ∃ items last,
      (∀ items' last', decoder.Scans input.octets input.position items' last' ↔
        items' = items ∧ last' = last) ∧
      (decoder.decode input sink).outcome = .ok (Stats.ofItems items last) ∧
      (decoder.decode input sink).items = items ∧
      (decoder.decode input sink).sink.written
        = sink.written ++ (String.join (items.map Item.text)).toUTF8 ∧
      (decoder.decode input sink).input.position = last := by
  obtain ⟨final, hdecode⟩ := decode_eq_scan hinput hscript hroom
  refine ⟨_, _, fun _ _ => decoder.scans_iff, ?_⟩
  rw [hdecode]
  exact ⟨rfl, rfl, Sink.written_offer_of_room_eq_none hroom _, Input.position_rewind _ _⟩

def gainLiteral : Icl.Literal := ⟨"gain %d dB", "mixer.c", 0, 2, 0, 88, 0, 10⟩

/-- A decoder with one literal, which has entry id 9 in library 2. -/
def gainDecoder : Decoder Icl.Header Icl.Literal :=
  ⟨Icl.format,
    (∅ : Libraries Icl.Literal).insert 2 ((∅ : LiteralTable _).set (.ofEntry 9) gainLiteral)⟩

/-- A word of no record, a record of that literal, and the first octet of another. -/
def gainTrace : ByteArray :=
  ⟨#[0, 0, 0, 0, 0x91, 4, 0, 0, 77, 0, 0, 0, 0, 0, 0, 0, 0xfa, 0xff, 0xff, 0xff, 0x91]⟩

/-- That trace behind a buffer, over a stream whose first reads are cut short. -/
def gainInput : Input := .buffered ⟨gainTrace, 0, [.upTo 3, .interrupted, .upTo 9]⟩ []

theorem coherent_gainInput : gainInput.Coherent := Input.coherent_buffered _

theorem productive_gainInput : ∀ step ∈ gainInput.script, step.Productive := by
  simp [gainInput, Input.script, Input.stream, ReadStep.Productive]

theorem scans_gainTrace : ∃ rendered,
    gainDecoder.Scans (Bytes.octets gainTrace) 0
      [⟨0, 4, .error .invalidHeader⟩, ⟨4, 16, .ok rendered⟩] 20 := by
  have hzero : (Bytes.octets gainTrace)[0]? = some 0 := rfl
  have hfirst : (Bytes.octets gainTrace)[4]? = some 0x91 := rfl
  have hliteral : gainDecoder.libraries.resolve 2 (.ofEntry 9) = .ok gainLiteral := rfl
  have hend : gainDecoder.Scans (Bytes.octets gainTrace) 20 [] 20 := .noHeader (by decide)
  exact ⟨_, .invalid hzero (by decide) rfl (.rendered hfirst (by decide) rfl hliteral hend)⟩

theorem decode_refines_scan_cut_reads :
    (gainInput.Coherent ∧ ∀ step ∈ gainInput.script, step.Productive) ∧
      (∃ overflows, (gainDecoder.decode gainInput {}).outcome = .ok ⟨1, 1, overflows, 20⟩) ∧
      (gainDecoder.decode gainInput {}).input.position = 20 := by
  have hroom : ({} : Sink).room = none := rfl
  obtain ⟨items, last, hscans, houtcome, -, -, hposition⟩ :=
    gainDecoder.decode_refines_scan coherent_gainInput productive_gainInput hroom
  obtain ⟨rendered, hscan⟩ := scans_gainTrace
  obtain ⟨rfl, rfl⟩ := (hscans _ _).1 hscan
  exact ⟨⟨coherent_gainInput, productive_gainInput⟩, ⟨_, houtcome⟩, hposition⟩

end FirmwareTrace.Decoder
