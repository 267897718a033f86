import FirmwareTrace.Proofs.Decode.EncodedTrace
import FirmwareTrace.Proofs.Decode.Selection
import FirmwareTrace.Proofs.Image.Extraction

/-! # Reachable literals

A literal is reachable if a valid header can point to it: its library id has four bits, and
its key no zero and no more bits than the header has for it, `reachable_iff`.  All other
literals may as well not be there, and each reachable one is rendered from a record that is
packed from its library id and its key, `reachable_literals`.
-/
namespace FirmwareTrace
open Channel Decode RecordFormat.Writer

/-! ## Leaving literals out -/

/-- The entries whose keys are kept. -/
def Table.restrict {κ α : Type} [Ranked κ] (keep : κ → Bool) (table : Table κ α) : Table κ α :=
  ⟨table.entries.filter fun e => keep e.1, table.ascending.filter _⟩

theorem Table.get?_restrict {κ α : Type} [Ranked κ] (keep : κ → Bool) (table : Table κ α)
    (key : κ) : (table.restrict keep).get? key = if keep key then table.get? key else none := by
  apply Option.ext
  intro value
  rw [get?_eq_some_iff]
  by_cases hkeep : keep key <;> simp [restrict, hkeep, get?_eq_some_iff]

/-- The literals whose library ids and keys are kept. -/
def Libraries.restrict {Literal : Type} (keep : LibraryId → RecordKey → Bool)
    (libraries : Libraries Literal) : Libraries Literal where
  tables :=
    { entries := libraries.tables.entries.map fun e => (e.1, e.2.restrict (keep e.1))
      ascending := List.pairwise_map.2 libraries.tables.ascending }

theorem Libraries.literal?_restrict {Literal : Type} (keep : LibraryId → RecordKey → Bool)
    (libraries : Libraries Literal) (library : LibraryId) (key : RecordKey) :
    (libraries.restrict keep).literal? library key =
      if keep library key then libraries.literal? library key else none := by
  have hlibrary : (libraries.restrict keep).library? library
      = (libraries.library? library).map (Table.restrict (keep library)) :=
    Table.lookup_map (fun id => Table.restrict (keep id)) libraries.tables.entries library
  rw [literal?, hlibrary, literal?]
  cases libraries.library? library with
  | none => simp
  | some table => exact table.get?_restrict (keep library) key

/-! ## A record alone -/

theorem Decode.Stats.ofItems_rendered (offset size endOffset : Nat) (rendered : Rendered) :
    Stats.ofItems [⟨offset, size, .ok rendered⟩] endOffset =
      ⟨1, 0, rendered.overflowed.toNat, endOffset⟩ := by
  cases hoverflow : rendered.overflowed <;>
    simp [Stats.ofItems, Item.isRendered, Item.isOverflow, hoverflow]

theorem Decoder.scan_octets_of_resolve {Header Literal : Type}
    {decoder : Decoder Header Literal} {writer : decoder.format.Writer}
    {fields : writer.Fields} {literal : Literal} (offset : Nat)
    (hliteral : decoder.libraries.resolve (writer.library fields) (writer.key fields)
      = .ok literal) :
    decoder.scan offset (writer.octets fields) =
      ⟨[⟨offset, (writer.octets fields).length, .ok (writer.render fields literal)⟩],
        offset + (writer.octets fields).length⟩ := by
  have hfits : (Part.record fields literal).Fits decoder.libraries [] := hliteral
  have hnone : decoder.format.record? [] = none := rfl
  have hpart := decoder.scan_part offset hfits
  rw [decoder.scan_of_none _ hnone, List.append_nil] at hpart
  exact hpart

/-! ## The keys of valid headers -/

section
variable {width : Nat} {field : BitVec width}

theorem toNat_field (hwidth : width ≤ 32) :
    (UInt32.ofNat field.toNat).toNat = field.toNat := by
  apply UInt32.toNat_ofNat_of_lt'
  exact Nat.lt_of_lt_of_le field.isLt (Nat.pow_le_pow_right (by decide) hwidth)

theorem field_le (hwidth : width ≤ 32) :
    (UInt32.ofNat field.toNat).toNat ≤ 1 <<< width - 1 := by
  rw [toNat_field hwidth, Nat.one_shiftLeft]
  exact Nat.le_sub_one_of_lt field.isLt

theorem field_range (hwidth : width ≤ 32) (hfield : (field != 0) = true) :
    1 ≤ (UInt32.ofNat field.toNat).toNat ∧
      (UInt32.ofNat field.toNat).toNat ≤ 1 <<< width - 1 := by
  refine ⟨?_, field_le hwidth⟩
  rw [toNat_field hwidth]
  exact Nat.pos_of_ne_zero fun hzero => bne_iff_ne.1 hfield (BitVec.eq_of_toNat_eq hzero)

end

namespace Image

open Elf

/-- The literals of a table come from the symbols that define them in its image. -/
theorem exists_defines_of_build {bytes : ByteArray} {table : LiteralTable Icl.Literal}
    (hbuild : build bytes = .ok table) :
    ∃ container names, Container.read? bytes = some container ∧ HasSections container names ∧
      ∀ key literal, table.get? key = some literal → ∃ position symbol sec data,
        Defines container key position symbol sec data ∧
          LiteralAt names data (symbol.value - sec.address) literal := by
  obtain ⟨reading, hreading, -⟩ := Except.bind_eq_ok_iff.1 hbuild
  obtain ⟨container, hread⟩ := container_of_read hreading
  rw [read_of_container hread] at hreading
  obtain ⟨names, hsections⟩ := exists_hasSections hreading
  obtain ⟨regions, hregions⟩ := exists_literalRegions hsections
  have htable := (build_of_hasSections hread hsections hregions).symm.trans hbuild
  have hfind : ∀ symbol ∈ container.symbols,
      ∃ finding?, find names regions symbol = .ok finding? := by
    intro symbol hmem
    cases hsymbol : find names regions symbol with
    | ok finding? => exact ⟨finding?, rfl⟩
    | error fault =>
      obtain ⟨first, hfirst⟩ := table_findAll_of_error hmem hsymbol
      cases hfirst.symm.trans htable
  have hcomplete : ∀ position symbol sec data,
      Eligible container position symbol sec data →
        Complete data (symbol.value - sec.address) := by
    intro position symbol sec data heligible
    by_contra hcut
    obtain ⟨i, -, hat, hwithin⟩ := (eligible_iff hread).1 heligible
    obtain ⟨fault, hfault⟩ := exists_find_error hregions hwithin hcut
    obtain ⟨finding?, hfinding⟩ := hfind symbol (List.mem_iff_getElem?.2 ⟨i, hat⟩)
    cases hfault.symm.trans hfinding
  rw [table_findAll_of_ok hfind] at htable
  obtain rfl := Except.ok.inj htable
  exact ⟨container, names, hread, hsections,
    fun key literal => (get?_ofFirst_eq_some_iff hread hregions hcomplete).1⟩

end Image

namespace SourceFormat

/-- The keys that a valid header can carry. -/
def Carries : SourceFormat → RecordKey → Prop
  | .csv, key => (1 ≤ key.fileId.toNat ∧ key.fileId.toNat ≤ 8191) ∧
      1 ≤ key.line.toNat ∧ key.line.toNat ≤ 16383
  | .elf, key => 1 ≤ key.raw ∧ key.raw ≤ 0x1ffffff

/-- A valid header can point to a literal at the key of the library. -/
def Reachable (format : SourceFormat) (library : LibraryId) (key : RecordKey) : Prop :=
  library.toNat ≤ 15 ∧ format.Carries key

instance (format : SourceFormat) (key : RecordKey) : Decidable (format.Carries key) :=
  match format with
  | .csv => inferInstanceAs (Decidable (_ ∧ _))
  | .elf => inferInstanceAs (Decidable (_ ∧ _))

instance (format : SourceFormat) (library : LibraryId) (key : RecordKey) :
    Decidable (format.Reachable library key) := inferInstanceAs (Decidable (_ ∧ _))

/-- The numbers of payload words that a header can declare. -/
def Declares : SourceFormat → Nat → Prop
  | .csv, count => 1 ≤ count ∧ count ≤ 4
  | .elf, count => count ≤ 7

/-- What a header holds besides the payload length, the library and the key.  A header with
an entry id has the timestamp only. -/
structure Particulars where
  core : Nat := 0
  logType : Bool := false
  instanceId : Nat := 0
  moduleId : Nat := 0
  timestamp : Nat := 0

/-- The header that points to the key of a library. -/
def pack (particulars : Particulars) (payloadWords : Nat) (library : LibraryId)
    (key : RecordKey) : (format : SourceFormat) → format.Header
  | .csv => .pack payloadWords key.line.toNat key.fileId.toNat particulars.core
      particulars.logType particulars.instanceId particulars.moduleId library.toNat
      particulars.timestamp
  | .elf => .pack payloadWords library.toNat key.raw particulars.timestamp

section
variable {format : SourceFormat} {library : LibraryId} {key : RecordKey}

/-- A packed header can be written, and points to where it is to. -/
theorem exists_fields (hreach : format.Reachable library key) (particulars : Particulars)
    {payload : List UInt32} (hpayload : format.Declares payload.length) :
    ∃ fields, format.writer.header fields = format.pack particulars payload.length library key ∧
      format.writer.payload fields = payload ∧ format.writer.library fields = library ∧
      format.writer.key fields = key := by
  obtain ⟨hlibrary, hkey⟩ := hreach
  cases format with
  | csv =>
    obtain ⟨hfile, hline⟩ := hkey
    refine ⟨(⟨key.line.toNat, key.fileId.toNat, particulars.core, particulars.logType,
      particulars.instanceId, particulars.moduleId, library.toNat, particulars.timestamp, payload,
      hline, hfile, hlibrary, hpayload⟩ : Spt.Fields), rfl, rfl, UInt32.ofNat_toNat, ?_⟩
    change RecordKey.ofLocation (.ofNat key.fileId.toNat) (.ofNat key.line.toNat) = key
    rw [UInt32.ofNat_toNat, UInt32.ofNat_toNat]
    rfl
  | elf =>
    obtain ⟨hpos, hle⟩ := hkey
    have hlt : key.raw < 0x2000000 := by omega
    refine ⟨(⟨library.toNat, key.raw, particulars.timestamp, payload, hlibrary, ⟨hpos, hlt⟩,
      hpayload⟩ : Icl.Fields), rfl, rfl, UInt32.ofNat_toNat, ?_⟩
    change RecordKey.ofEntry (.ofNat key.raw) = key
    apply RecordKey.raw_injective
    rw [RecordKey.raw_ofEntry, UInt32.toNat_ofNat_of_lt' (Nat.lt_trans hlt (by decide))]

theorem reachable_of_isValid {header : format.Header}
    (hvalid : format.records.isValid header = true) :
    format.Reachable (format.records.libraryId header) (format.records.key header) := by
  cases format with
  | csv =>
    obtain ⟨hfile, hline⟩ := Bool.and_eq_true_iff.1 hvalid
    exact ⟨field_le (by decide), field_range (by decide) hfile, field_range (by decide) hline⟩
  | elf =>
    have hentry := field_range (by decide) hvalid
    rw [← RecordKey.raw_ofEntry] at hentry
    exact ⟨field_le (by decide), hentry⟩

/-- The reachable keys are those that valid headers point to. -/
theorem reachable_iff : format.Reachable library key ↔ ∃ header,
    format.records.isValid header = true ∧ format.records.libraryId header = library ∧
      format.records.key header = key := by
  constructor
  · intro hreach
    have hword : format.Declares [(0 : UInt32)].length := by
      cases format with
      | csv => exact ⟨by decide, by decide⟩
      | elf => exact Nat.le_of_ble_eq_true rfl
    obtain ⟨fields, -, -, rfl, rfl⟩ := exists_fields hreach {} hword
    exact ⟨format.writer.header fields, format.writer.isValid_header fields,
      format.writer.libraryId_header fields, format.writer.key_header fields⟩
  · rintro ⟨header, hvalid, rfl, rfl⟩
    exact reachable_of_isValid hvalid

variable (format) in
/-- Libraries that hold the same reachable literals agree wherever a valid header points. -/
theorem agree_of_reachable {libraries others : Libraries format.Literal}
    (hsame : ∀ library key, format.Reachable library key →
      libraries.literal? library key = others.literal? library key) :
    format.records.Agree libraries others := fun _ hvalid => hsame _ _ (reachable_of_isValid hvalid)

variable (format) in
/-- Every record that is packed for a key of a library is rendered from the literal. -/
def Selects (libraries : Libraries format.Literal) (library : LibraryId) (key : RecordKey)
    (literal : format.Literal) : Prop :=
  ∀ particulars (payload : List UInt32), format.Declares payload.length →
    ∀ (input : Input) (sink : Sink), input.Coherent →
    (∀ step ∈ input.script, step.Productive) → sink.room = none →
    input.octets.drop input.position =
      format.records.encode (format.pack particulars payload.length library key)
        ++ Bytes.ofWords payload →
    let run := Decoder.decode ⟨format.records, libraries⟩ input sink
    let rendered := format.records.render (format.pack particulars payload.length library key)
      literal payload
    let size := format.records.headerSize + payload.length * wordSize
    run.items = [⟨input.position, size, .ok rendered⟩] ∧
      run.sink.written = sink.written ++ rendered.text.toUTF8 ∧
      run.outcome = .ok ⟨1, 0, rendered.overflowed.toNat, input.position + size⟩

theorem selects_of_reachable {libraries : Libraries format.Literal} {literal : format.Literal}
    (hreach : format.Reachable library key)
    (hliteral : libraries.literal? library key = some literal) :
    format.Selects libraries library key literal := by
  intro particulars payload hpayload input sink hinput hscript hroom htrace run rendered size
  obtain ⟨fields, hheader, rfl, rfl, rfl⟩ := exists_fields hreach particulars hpayload
  have hrendered : format.writer.render fields literal = rendered := by
    rw [← format.writer.render_header, hheader]
  have hsize : (format.writer.octets fields).length = size := by
    rw [RecordFormat.Writer.octets, List.length_append, format.writer.length_encode,
      Bytes.length_ofWords]
  have hoctets : input.octets.drop input.position = format.writer.octets fields := by
    rw [htrace, ← hheader]
    rfl
  have hresolve := Libraries.resolve_eq_ok_iff.2 hliteral
  have hscan : Decoder.scan ⟨format.records, libraries⟩ input.position
      (input.octets.drop input.position)
        = ⟨[⟨input.position, size, .ok rendered⟩], input.position + size⟩ := by
    rw [hoctets, Decoder.scan_octets_of_resolve _ hresolve, hrendered, hsize]
  have hdecode : ∃ last : Input, run = _ := Decoder.decode_eq_scan hinput hscript hroom
  obtain ⟨last, hrun⟩ := hdecode
  rw [hscan, Stats.ofItems_rendered, Scan.text, List.map_singleton] at hrun
  rw [hrun]
  refine ⟨rfl, (Sink.written_offer_of_room_eq_none hroom _).trans ?_, rfl⟩
  simp [String.join, Item.text]

end

/-! ## Literals of images -/

/-- The key of a literal is not zero if its address is at least 128, and never too large. -/
theorem carries_iff_of_defines {container : Elf.Container} {key : RecordKey} {position : Nat}
    {symbol : Elf.Symbol} {sec : Elf.Section} {data : ByteArray}
    (hdefines : Image.Defines container key position symbol sec data) :
    SourceFormat.elf.Carries key ↔ 128 ≤ symbol.value := by
  have hlt : symbol.value < 2 ^ 32 := Elf.Container.value_lt hdefines.symbol_at
  have hkey : key.raw = symbol.value / 2 ^ 7 := by
    rw [hdefines.key_eq, Nat.shiftRight_eq_div_pow]
  change 1 ≤ key.raw ∧ key.raw ≤ 0x1ffffff ↔ _
  omega

/-- Exactly the reachable literals matter: the others change nothing, and each reachable one
is what some record is rendered from.  Those of an image are reachable but for the lowest
addresses. -/
theorem reachable_literals (format : SourceFormat) (libraries : Libraries format.Literal) :
    (∀ library key, format.Reachable library key ↔ ∃ header,
      format.records.isValid header = true ∧ format.records.libraryId header = library ∧
        format.records.key header = key) ∧
    (∀ library key,
      (libraries.restrict fun library key => format.Reachable library key).literal? library key =
        if format.Reachable library key then libraries.literal? library key else none) ∧
    (∀ others : Libraries format.Literal,
      (∀ library key, format.Reachable library key →
        others.literal? library key = libraries.literal? library key) →
      ∀ input sink,
        let run := Decoder.decode ⟨format.records, libraries⟩ input sink
        let other := Decoder.decode ⟨format.records, others⟩ input sink
        other.sink = run.sink ∧ other.outcome = run.outcome) ∧
    (∀ input sink,
      let run := Decoder.decode ⟨format.records, libraries⟩ input sink
      let restricted := Decoder.decode ⟨format.records,
        libraries.restrict fun library key => format.Reachable library key⟩ input sink
      restricted.sink = run.sink ∧ restricted.outcome = run.outcome) ∧
    (∀ library key literal, format.Reachable library key →
      libraries.literal? library key = some literal →
      format.Selects libraries library key literal) ∧
    ∀ bytes table, Image.build bytes = .ok table → ∃ container names,
      Elf.Container.read? bytes = some container ∧ Image.HasSections container names ∧
      ∀ key literal, table.get? key = some literal → ∃ position symbol sec data,
        Image.Defines container key position symbol sec data ∧
        Image.LiteralAt names data (symbol.value - sec.address) literal ∧
        ∀ library : LibraryId, library.toNat ≤ 15 →
          (SourceFormat.elf.Reachable library key ↔ 128 ≤ symbol.value) := by
  have hrestrict := libraries.literal?_restrict fun library key => format.Reachable library key
  simp only [decide_eq_true_eq] at hrestrict
  have hothers : ∀ others : Libraries format.Literal,
      (∀ library key, format.Reachable library key →
        others.literal? library key = libraries.literal? library key) →
      ∀ input sink,
        (Decoder.decode ⟨format.records, others⟩ input sink).sink
            = (Decoder.decode ⟨format.records, libraries⟩ input sink).sink ∧
          (Decoder.decode ⟨format.records, others⟩ input sink).outcome
            = (Decoder.decode ⟨format.records, libraries⟩ input sink).outcome := by
    intro others hsame input sink
    obtain ⟨-, hsink, houtcome, -⟩ :=
      Decoder.decode_agrees (format.agree_of_reachable hsame) input sink
    exact ⟨hsink, houtcome⟩
  refine ⟨fun library key => reachable_iff, hrestrict, hothers, ?_, ?_, ?_⟩
  · apply hothers
    intro library key hreach
    rw [hrestrict, if_pos hreach]
  · intro library key literal hreach hliteral
    exact selects_of_reachable hreach hliteral
  · intro bytes table hbuild
    obtain ⟨container, names, hread, hsections, hget⟩ := Image.exists_defines_of_build hbuild
    refine ⟨container, names, hread, hsections, fun key literal hliteral => ?_⟩
    obtain ⟨position, symbol, sec, data, hdefines, hat⟩ := hget key literal hliteral
    refine ⟨position, symbol, sec, data, hdefines, hat, fun library hlibrary => ?_⟩
    exact (and_iff_right hlibrary).trans (carries_iff_of_defines hdefines)

/-- A literal that can be pointed to, and the same under a library id that is too large. -/
def doubledLibraries : Libraries Icl.Literal :=
  Decoder.gainDecoder.libraries.insert 16
    ((∅ : LiteralTable _).set (.ofEntry 9) Decoder.gainLiteral)

/-- The record of the literal with one payload word. -/
def gainRecord : List UInt8 :=
  SourceFormat.elf.records.encode (SourceFormat.elf.pack {} [5].length 2 (.ofEntry 9))
    ++ Bytes.ofWords [5]

theorem reachable_literals_doubled :
    let restricted := doubledLibraries.restrict fun library key =>
      SourceFormat.elf.Reachable library key
    let input : Input := .direct ⟨⟨gainRecord.toArray⟩, 0, []⟩
    let run := Decoder.decode ⟨Icl.format, doubledLibraries⟩ input {}
    doubledLibraries.literal? 16 (.ofEntry 9) = some Decoder.gainLiteral ∧
      restricted.literal? 16 (.ofEntry 9) = none ∧
      SourceFormat.elf.Reachable 2 (.ofEntry 9) ∧
      (Decoder.decode ⟨Icl.format, restricted⟩ input {}).sink = run.sink ∧
      run.items.map Item.text = ["0: mixer.c(88):\n0: gain 5 dB\n"] ∧
      run.outcome = .ok ⟨1, 0, 0, 16⟩ := by
  intro restricted input run
  obtain ⟨-, hrestrict, -, hdecode, hselects, -⟩ := reachable_literals .elf doubledLibraries
  have hfar : ¬ SourceFormat.elf.Reachable 16 (.ofEntry 9) := by decide
  have hnear : SourceFormat.elf.Reachable 2 (.ofEntry 9) := by decide
  obtain ⟨hitems, -, houtcome⟩ := hselects 2 (.ofEntry 9) Decoder.gainLiteral hnear rfl {} [5]
    (Nat.le_of_ble_eq_true rfl) input {} (Input.coherent_direct _) nofun rfl rfl
  have htext : (Icl.render (.pack 1 2 9 0) Decoder.gainLiteral [5]).text
      = "0: mixer.c(88):\n0: gain 5 dB\n" := by decide +kernel
  have hoverflow : (Icl.render (.pack 1 2 9 0) Decoder.gainLiteral [5]).overflowed.toNat = 0 := by
    decide +kernel
  refine ⟨rfl, (hrestrict _ _).trans (if_neg hfar), hnear, (hdecode input {}).1, ?_, ?_⟩
  · exact (congrArg (List.map Item.text) hitems).trans (congrArg (fun text => [text]) htext)
  · refine houtcome.trans ?_
    change Except.ok (⟨1, 0, _, 16⟩ : Stats) = _
    rw [← hoverflow]
    rfl

end SourceFormat
end FirmwareTrace
