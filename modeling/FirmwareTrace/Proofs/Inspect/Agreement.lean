import FirmwareTrace.Inspect
import FirmwareTrace.Proofs.Decode.PlainScan
import FirmwareTrace.Proofs.Table.Lookup
import FirmwareTrace.Proofs.Text.Numerals
import FirmwareTrace.Session.Basic
import Mathlib.Algebra.Ring.Nat

/-! # Inspection and decoding go the same way

A walk looks at the headers of a trace, and decoding at the literals that they select.  Where
every valid header selects one, both stop at the same offsets, by the same steps and before the
same last octets, `Scans.listed`.  So the report of an inspection can be told from what is
decoded, `inspection_agrees`.
-/
namespace FirmwareTrace
open Channel Decode

namespace Inspect

/-! ## One step of a walk -/

section
variable {Header Literal : Type} (format : RecordFormat Header Literal)
  {octets record : List UInt8} (offset : Nat)

theorem walk_of_none (h : format.record? octets = none) :
    walk format offset octets = ⟨[], 0, offset⟩ := by
  rw [walk]
  split
  · rfl
  · rename_i heq
    cases h.symm.trans heq

theorem walk_of_valid (h : format.record? octets = some record)
    (hvalid : format.isValid (format.parse (record.take format.headerSize)) = true) :
    walk format offset octets =
      (walk format (offset + record.length) (octets.drop record.length)).addEntry
        ⟨offset, record.length, format.parse (record.take format.headerSize)⟩ := by
  rw [walk]
  split
  · rename_i heq
    cases h.symm.trans heq
  · rename_i found heq
    obtain rfl := Option.some.inj (h.symm.trans heq)
    exact if_pos hvalid

theorem walk_of_invalid (h : format.record? octets = some record)
    (hvalid : format.isValid (format.parse (record.take format.headerSize)) = false) :
    walk format offset octets =
      (walk format (offset + wordSize) (octets.drop wordSize)).addInvalid := by
  rw [walk]
  split
  · rename_i heq
    cases h.symm.trans heq
  · rename_i found heq
    obtain rfl := Option.some.inj (h.symm.trans heq)
    exact if_neg (Bool.eq_false_iff.1 hvalid)

/-! ## Records by library -/

theorem libraryCounts_concat (entries : List (Entry Header)) (entry : Entry Header) :
    libraryCounts format (entries ++ [entry]) =
      (libraryCounts format entries).alter (format.libraryId entry.header)
        fun count => count.getD 0 + 1 := by
  rw [libraryCounts, List.foldl_append]
  rfl

/-- A library is listed with the number of its records, if it has any. -/
theorem get?_libraryCounts (entries : List (Entry Header)) (library : LibraryId) :
    (libraryCounts format entries).get? library =
      let count := entries.countP fun entry => format.libraryId entry.header = library
      if count = 0 then none else some count := by
  induction entries using List.reverseRecOn with
  | nil => rfl
  | append_singleton entries entry ih =>
    rw [libraryCounts_concat, Table.get?_alter, List.countP_append, List.countP_singleton]
    by_cases h : format.libraryId entry.header = library
    · subst h
      rw [if_pos rfl, ih]
      by_cases hnone : entries.countP
          (fun other => format.libraryId other.header = format.libraryId entry.header) = 0
      · simp [hnone]
      · simp [hnone]
    · rw [if_neg fun hrank => h (Ranked.rank_injective hrank), ih]
      simp [h]

theorem sum_place_succ {κ : Type} [Ranked κ] (key : κ) (entries : List (κ × Nat)) :
    ((Table.place key (fun count => count.getD 0 + 1) entries).map Prod.snd).sum =
      (entries.map Prod.snd).sum + 1 := by
  induction entries with
  | nil => rfl
  | cons head rest ih =>
    rw [Table.place]
    split
    · simp [Nat.add_comm]
    · split
      · simp [Nat.add_right_comm]
      · simp [ih, Nat.add_assoc]

theorem sum_libraryCounts (entries : List (Entry Header)) :
    ((libraryCounts format entries).entries.map Prod.snd).sum = entries.length := by
  induction entries using List.reverseRecOn with
  | nil => rfl
  | append_singleton entries entry ih =>
    rw [libraryCounts_concat, List.length_append, ← ih]
    exact sum_place_succ _ _

end
end Inspect

/-! ## All steps of a walk -/

namespace Decoder

variable {Header Literal : Type} (decoder : Decoder Header Literal)

/-- The entry of a record at the offset of an item. -/
def entryOf (octets : List UInt8) (item : Item) : Inspect.Entry Header :=
  ⟨item.offset, item.size, decoder.headerAt octets item.offset⟩

/-- A walk that comes to the rendered items of a trace, and passes the others by. -/
structure Lists (octets : List UInt8) (items : List Item) (last : Nat)
    (walk : Inspect.Walk Header) : Prop where
  entries : walk.entries = (items.filter Item.isRendered).map (decoder.entryOf octets)
  invalid : walk.invalid = items.countP fun item => !item.isRendered
  endOffset : walk.endOffset = last

/-- The literal that a header selects is there. -/
def Resolves (header : Header) : Prop :=
  ∃ literal, decoder.libraries.resolve (decoder.format.libraryId header)
    (decoder.format.key header) = .ok literal

variable {decoder} {octets : List UInt8} {offset last : Nat} {items : List Item}
  {walk : Inspect.Walk Header}

theorem Lists.addEntry {size : Nat} {rendered : Rendered}
    (h : decoder.Lists octets items last walk) :
    decoder.Lists octets (⟨offset, size, .ok rendered⟩ :: items) last
      (walk.addEntry ⟨offset, size, decoder.headerAt octets offset⟩) where
  entries := congrArg (List.cons _) h.entries
  invalid := h.invalid
  endOffset := h.endOffset

theorem Lists.addInvalid {size : Nat} {why : Unresolved}
    (h : decoder.Lists octets items last walk) :
    decoder.Lists octets (⟨offset, size, .error why⟩ :: items) last walk.addInvalid where
  entries := h.entries
  invalid := (congrArg Nat.succ h.invalid).trans (List.countP_cons_of_pos rfl).symm
  endOffset := h.endOffset

/-- A complete record with a valid header is listed, and the walk goes on behind it. -/
theorem walk_of_header {first : UInt8} (hfirst : octets[offset]? = some first)
    (hsize : offset + decoder.format.recordSize first ≤ octets.length)
    (hvalid : decoder.format.isValid (decoder.headerAt octets offset) = true) :
    Inspect.walk decoder.format offset (octets.drop offset) =
      (Inspect.walk decoder.format (offset + decoder.format.recordSize first)
        (octets.drop (offset + decoder.format.recordSize first))).addEntry
          ⟨offset, decoder.format.recordSize first, decoder.headerAt octets offset⟩ := by
  have hlength : ((octets.drop offset).take (decoder.format.recordSize first)).length
      = decoder.format.recordSize first := by
    rw [List.length_take, List.length_drop]
    omega
  have hrecord := (decoder.record?_of_first hfirst).1 hsize
  rw [← decoder.parse_record octets offset first] at hvalid ⊢
  rw [Inspect.walk_of_valid decoder.format offset hrecord hvalid, hlength, List.drop_drop]

/-- Along the items of a trace: a valid header is listed where it is rendered, and one that is
invalid is passed by the same step.  No other header is met. -/
theorem Scans.listed (h : decoder.Scans octets offset items last)
    (hresolves : ∀ entry ∈ (Inspect.walk decoder.format offset (octets.drop offset)).entries,
      decoder.Resolves entry.header) :
    decoder.Lists octets items last (Inspect.walk decoder.format offset (octets.drop offset)) := by
  induction h with
  | @noHeader offset h =>
    have hle := decoder.format.headerSize_le_recordSize ((octets.drop offset).headD 0)
    have hpos := decoder.format.recordSize_pos ((octets.drop offset).headD 0)
    have hnone : decoder.format.record? (octets.drop offset) = none := by
      apply decoder.format.record?_of_lt
      rw [List.length_drop]
      omega
    rw [Inspect.walk_of_none decoder.format offset hnone]
    exact ⟨rfl, rfl, rfl⟩
  | noRecord hfirst h =>
    rw [Inspect.walk_of_none decoder.format _ ((decoder.record?_of_first hfirst).2 h)]
    exact ⟨rfl, rfl, rfl⟩
  | rendered hfirst hsize hheader hliteral _ ih =>
    rw [walk_of_header hfirst hsize hheader] at hresolves ⊢
    exact (ih fun entry hmem => hresolves entry (List.mem_cons_of_mem _ hmem)).addEntry
  | @invalid offset last first items hfirst hsize hheader _ ih =>
    have hrecord := (decoder.record?_of_first hfirst).1 hsize
    rw [← decoder.parse_record octets offset first] at hheader
    rw [Inspect.walk_of_invalid decoder.format offset hrecord hheader, List.drop_drop]
      at hresolves ⊢
    exact (ih hresolves).addInvalid
  | unresolved hfirst hsize hheader hwhy _ ih =>
    rw [walk_of_header hfirst hsize hheader] at hresolves
    obtain ⟨literal, hliteral⟩ := hresolves _ List.mem_cons_self
    cases hwhy.symm.trans hliteral

end Decoder

/-! ## Reports -/

namespace Inspect

/-- What stands behind the listed records of a report. -/
def summary (counts : Table LibraryId Nat) (records invalid trailing : Nat) : String :=
  "\n=== SUMMARY ===\nRecords: " ++ number records
    ++ "\nInvalid headers skipped: " ++ number invalid ++ "\n"
    ++ String.join (counts.entries.map fun e =>
        "  library " ++ column 2 e.1.toNat ++ ": " ++ number e.2 ++ " records\n")
    ++ if trailing = 0 then ""
      else "Incomplete trailing record: " ++ number trailing ++ " bytes\n"

theorem report_eq {Header Literal : Type} (format : RecordFormat Header Literal)
    (describe : Header → String) (limit : Nat) (content : ByteArray) :
    report format describe limit content =
      let found := walk format 0 (Bytes.octets content)
      String.join ((found.entries.take limit).map (entryLine describe)) ++
        summary (libraryCounts format found.entries) found.entries.length found.invalid
          (content.size - found.endOffset) := by
  unfold report summary
  dsimp only
  simp only [String.append_assoc]

end Inspect

namespace SourceFormat

/-- The name of the records of a format. -/
def variant : SourceFormat → String
  | .csv => "spt"
  | .elf => "icl"

def describe : (format : SourceFormat) → format.Header → String
  | .csv => Inspect.describeSpt
  | .elf => Inspect.describeIcl

/-- A format and a limit are read as they were given. -/
theorem read_limit (format : SourceFormat) {limit : Nat} (h : limit < 0x10000000000000000) :
    ({} : Inspect.Options).read [format.variant, "--limit", Inspect.number limit] =
      ⟨format.variant, limit⟩ := by
  have hlimit : (Numeral.bounded? 10 0x10000000000000000 (Inspect.number limit).toList).getD 50
      = limit := by
    rw [Inspect.number, String.toList_ofList, Numeral.bounded?_decimal h]
    rfl
  have hother : format.variant ≠ "--limit" := by cases format <;> decide
  have hlower : Text.lowercase format.variant = format.variant := by
    cases format <;> decide +kernel
  rw [Inspect.Options.read, if_neg hother, Inspect.Options.read, if_pos rfl, Inspect.Options.read,
    hlower]
  exact congrArg (Inspect.Options.mk format.variant) hlimit

/-- The report of an inspection, from what it lists and counts. -/
def inspectionReport (format : SourceFormat) (path : String) (content : ByteArray)
    (listed : List (Inspect.Entry format.Header)) (counts : Table LibraryId Nat)
    (records invalid trailing : Nat) : String :=
  "Inspecting " ++ path ++ " (" ++ Inspect.number content.size ++ " bytes) as "
    ++ format.variant ++ "\n" ++ (String.join (listed.map (Inspect.entryLine format.describe))
    ++ Inspect.summary counts records invalid trailing)

theorem run_of_variant {format : SourceFormat} {workspace : Workspace} {path : String}
    {content : ByteArray} {arguments : List String} {options : Inspect.Options}
    (hread : workspace.read path = .ok content)
    (hoptions : ({} : Inspect.Options).read arguments = options)
    (hvariant : options.variant = format.variant) :
    Inspect.run workspace (path :: arguments) =
      ⟨0, "Inspecting " ++ path ++ " (" ++ Inspect.number content.size ++ " bytes) as "
          ++ format.variant ++ "\n"
          ++ Inspect.report format.records format.describe options.limit content⟩ := by
  rw [Inspect.run, hread]
  dsimp only
  rw [hoptions, hvariant]
  cases format <;> rfl

/-- Where every valid header that a walk meets selects a literal, the walk lists what decoding
renders and passes what decoding marks.  The report shows as many of the rendered records as
its limit allows, and the statistics of decoding. -/
theorem inspection_agrees (format : SourceFormat) (libraries : Libraries format.Literal)
    (content : ByteArray)
    (hresolves : ∀ entry ∈ (Inspect.walk format.records 0 (Bytes.octets content)).entries,
      Decoder.Resolves ⟨format.records, libraries⟩ entry.header)
    (input : Input) (sink : Sink) (hinput : input.Coherent)
    (hscript : ∀ step ∈ input.script, step.Productive) (hstart : input.position = 0)
    (hcontent : input.stream.data = content) (hroom : sink.room = none) :
    let decoder : Decoder format.Header format.Literal := ⟨format.records, libraries⟩
    let found := Inspect.walk format.records 0 (Bytes.octets content)
    let counts := Inspect.libraryCounts format.records found.entries
    let rendered := (decoder.decode input sink).items.filter Item.isRendered
    ∃ stats, (decoder.decode input sink).outcome = .ok stats ∧
      found.entries.length = stats.rendered ∧ found.invalid = stats.unknown ∧
      found.endOffset = stats.endOffset ∧ stats.endOffset ≤ content.size ∧
      found.entries.map Inspect.Entry.offset = rendered.map Item.offset ∧
      (counts.entries.map Prod.snd).sum = found.entries.length ∧
      (∀ library, counts.get? library =
        let count := found.entries.countP fun entry =>
          format.records.libraryId entry.header = library
        if count = 0 then none else some count) ∧
      (∀ workspace path arguments, workspace.read path = .ok content →
        let options := ({} : Inspect.Options).read arguments
        options.variant = format.variant →
        let listed := rendered.take options.limit
        listed.length = min options.limit stats.rendered ∧
          Inspect.run workspace (path :: arguments) =
            ⟨0, format.inspectionReport path content
              (listed.map (decoder.entryOf (Bytes.octets content))) counts stats.rendered
              stats.unknown (content.size - stats.endOffset)⟩) ∧
      ∀ limit < 0x10000000000000000,
        ({} : Inspect.Options).read [format.variant, "--limit", Inspect.number limit] =
          ⟨format.variant, limit⟩ := by
  intro decoder found counts rendered
  subst hcontent
  obtain ⟨last, hdecode⟩ : ∃ last : Input, decoder.decode input sink = _ :=
    Decoder.decode_eq_scan hinput hscript hroom
  rw [hstart, List.drop_zero] at hdecode
  have hlists : decoder.Lists input.octets (decoder.scan 0 input.octets).items
      (decoder.scan 0 input.octets).endOffset found :=
    (decoder.scans_scan input.octets 0).listed hresolves
  have hrendered : rendered = (decoder.scan 0 input.octets).items.filter Item.isRendered :=
    congrArg (fun run => run.items.filter Item.isRendered) hdecode
  have hentries : found.entries = rendered.map (decoder.entryOf input.octets) := by
    rw [hlists.entries, hrendered]
  have hlength : found.entries.length = (decoder.scan 0 input.octets).items.countP
      Item.isRendered := by
    rw [hlists.entries, List.length_map, List.countP_eq_length_filter]
  have hend := decoder.endOffset_scan_le 0 input.octets
  rw [Nat.zero_add, Input.octets, Bytes.length_octets] at hend
  refine ⟨_, congrArg Decoding.outcome hdecode, hlength, hlists.invalid, hlists.endOffset, hend,
    ?_, Inspect.sum_libraryCounts _ _, Inspect.get?_libraryCounts _ _, ?_,
    fun limit => read_limit format⟩
  · rw [hentries, List.map_map]
    rfl
  · intro workspace path arguments hread options hvariant listed
    constructor
    · rw [List.length_take, ← List.length_map, ← hentries, hlength]
      rfl
    · have hlisted : listed.map (decoder.entryOf input.octets)
          = found.entries.take options.limit := by
        rw [hentries, List.map_take]
      rw [run_of_variant hread rfl hvariant, Inspect.report_eq]
      dsimp only
      rw [← hlisted, hlength, hlists.invalid, hlists.endOffset]
      rfl

section
open Decoder

/-- All valid headers of the trace select the literal. -/
theorem resolves_gainTrace :
    ∀ entry ∈ (Inspect.walk Icl.format 0 (Bytes.octets gainTrace)).entries,
      gainDecoder.Resolves entry.header := by
  have hall : (Inspect.walk Icl.format 0 (Bytes.octets gainTrace)).entries.all (fun entry =>
      entry.header.libraryId = 2 ∧ entry.header.key = .ofEntry 9) = true := by decide +kernel
  intro entry hmem
  obtain ⟨hlibrary, hkey⟩ := of_decide_eq_true (List.all_eq_true.1 hall entry hmem)
  refine ⟨gainLiteral, ?_⟩
  change gainDecoder.libraries.resolve entry.header.libraryId entry.header.key = _
  rw [hlibrary, hkey]
  rfl

/-- A file with that trace. -/
def gainFile : Workspace where
  nodes := [(⟨.working 0, ["t.bin"]⟩, .file gainTrace 0)]

/-- The trace is read in pieces by the decoder, and at once by the inspection of its file. -/
theorem inspection_agrees_gainTrace :
    let decoder : Decoder SourceFormat.elf.Header SourceFormat.elf.Literal :=
      ⟨SourceFormat.elf.records, gainDecoder.libraries⟩
    let found := Inspect.walk SourceFormat.elf.records 0 (Bytes.octets gainTrace)
    let run := decoder.decode gainInput {}
    let rendered := run.items.filter Item.isRendered
    let arguments := ["icl", "--limit", Inspect.number 1]
    (∀ entry ∈ found.entries, decoder.Resolves entry.header) ∧ gainInput.Coherent ∧
      (∀ step ∈ gainInput.script, step.Productive) ∧ gainFile.read "t.bin" = .ok gainTrace ∧
      ({} : Inspect.Options).read arguments = ⟨"icl", 1⟩ ∧
      ∃ stats, run.outcome = .ok stats ∧
        stats.rendered = 1 ∧ stats.unknown = 1 ∧ stats.endOffset = 20 ∧
        rendered.map Item.offset = [4] ∧
        Inspect.run gainFile ("t.bin" :: arguments) =
          ⟨0, SourceFormat.elf.inspectionReport "t.bin" gainTrace
            ((rendered.take (({} : Inspect.Options).read arguments).limit).map
              (decoder.entryOf (Bytes.octets gainTrace)))
            (Inspect.libraryCounts SourceFormat.elf.records found.entries) stats.rendered
            stats.unknown (gainTrace.size - stats.endOffset)⟩ := by
  intro decoder found run rendered arguments
  obtain ⟨stats, houtcome, hrecords, hunknown, hend, -, hoffsets, -, -, hreport, hread⟩ :=
    inspection_agrees .elf gainDecoder.libraries gainTrace resolves_gainTrace gainInput {}
      coherent_gainInput productive_gainInput rfl rfl rfl
  have hlength : found.entries.length = 1 := by decide +kernel
  have hinvalid : found.invalid = 1 := by decide +kernel
  have hlast : found.endOffset = 20 := by decide +kernel
  have hlisted : found.entries.map Inspect.Entry.offset = [4] := by decide +kernel
  have hfile : gainFile.read "t.bin" = .ok gainTrace := rfl
  have hoptions : ({} : Inspect.Options).read arguments = ⟨"icl", 1⟩ := hread 1 (by decide)
  obtain ⟨-, hrun⟩ := hreport gainFile "t.bin" arguments hfile
    (congrArg Inspect.Options.variant hoptions)
  exact ⟨resolves_gainTrace, coherent_gainInput, productive_gainInput, hfile, hoptions, stats,
    houtcome, hrecords.symm.trans hlength, hunknown.symm.trans hinvalid, hend.symm.trans hlast,
    hoffsets.symm.trans hlisted, hrun⟩

end
end SourceFormat
end FirmwareTrace
