import FirmwareTrace.Proofs.Elf.Extension
import FirmwareTrace.Proofs.Elf.Placement
import FirmwareTrace.Proofs.Image.Assembly

/-! # The container of an assembled image

Header, sections and symbols are read back as they were placed, `read?_image`, since every
offset in the file fits into its field.
-/
namespace FirmwareTrace.Image
open Elf Bytes

namespace Assembly

/-! ## Headers and symbols -/

/-- All fields of the header are numbers of 32 bits. -/
structure HeaderFits (header : Nat × Section) : Prop where
  name_lt : header.1 < 0x100000000
  kind_lt : header.2.kind < 0x100000000
  address_lt : header.2.address < 0x100000000
  offset_lt : header.2.offset < 0x100000000
  size_lt : header.2.size < 0x100000000
  link_lt : header.2.link < 0x100000000

theorem readSection?_of_standsAt {bytes : ByteArray} {offset : Nat} {header : Nat × Section}
    (h : StandsAt (octets bytes) offset (sectionHeader header)) (hfits : HeaderFits header) :
    readSection? bytes offset = some (header.1, { header.2 with name := none }) := by
  have hslice : slice? bytes offset sectionHeaderSize = some (sectionHeader header) :=
    slice?_of_standsAt h
  have field {n : Nat} (hn : n < 0x100000000) : ofLittleEndian (toLittleEndian 4 n) = n :=
    ofLittleEndian_toLittleEndian_of_lt 4 hn
  rw [readSection?, hslice]
  change some (ofLittleEndian (toLittleEndian 4 _), (⟨none, ofLittleEndian (toLittleEndian 4 _),
    ofLittleEndian (toLittleEndian 4 _), ofLittleEndian (toLittleEndian 4 _),
    ofLittleEndian (toLittleEndian 4 _), ofLittleEndian (toLittleEndian 4 _)⟩ : Section)) = _
  rw [field hfits.name_lt, field hfits.kind_lt, field hfits.address_lt, field hfits.offset_lt,
    field hfits.size_lt, field hfits.link_lt]

theorem length_sectionHeader (header : Nat × Section) :
    (sectionHeader header).length = sectionHeaderSize := rfl

theorem length_symbolOctets (symbol : Nat × Nat) : (symbolOctets symbol).length = symbolSize := rfl

theorem homeOf_empty (position field : Nat) : homeOf .empty position field
    = if field = 0 ∨ reservedIndex ≤ field then none else some field := by
  have hnone : number? .empty (position * 4) 4 = none := by
    rw [number?, slice?, if_neg (by simp), Option.map_none]
  rw [homeOf]
  by_cases hfield : field = extendedIndex
  · rw [if_pos hfield, hnone, if_pos (.inr (hfield ▸ by decide))]
  · rw [if_neg hfield]

/-- What a symbol of the table is read as. -/
def symbolOf (symbol : Nat × Nat) : Symbol := ⟨symbol.1, homeOf .empty 0 symbol.2⟩

variable (assembly : Assembly)

/-! ## Where the sections stand -/

theorem standsAt_fileHeader :
    StandsAt (octets assembly.image) 0 (fileHeader assembly.headersOffset) := by
  simp only [image, octets_mk, List.append_assoc]
  exact standsAt_zero _ _

theorem standsAt_sections : StandsAt (octets assembly.image) nameTableOffset
    (padded nameTable ++ (padded assembly.symbolTable ++ (padded assembly.names
      ++ (padded assembly.runs ++ assembly.headers.flatMap sectionHeader)))) := by
  refine ⟨fileHeader assembly.headersOffset, [], ?_, rfl⟩
  simp only [image, octets_mk, List.append_assoc, List.append_nil]

theorem standsAt_nameTable : StandsAt (octets assembly.image) nameTableOffset nameTable :=
  assembly.standsAt_sections.left.left

theorem standsAt_symbolTable :
    StandsAt (octets assembly.image) symbolTableOffset assembly.symbolTable :=
  assembly.standsAt_sections.right.left.left

theorem standsAt_names :
    StandsAt (octets assembly.image) assembly.namesOffset assembly.names :=
  assembly.standsAt_sections.right.right.left.left

theorem standsAt_runs :
    StandsAt (octets assembly.image) assembly.runsOffset assembly.runs :=
  assembly.standsAt_sections.right.right.right.left.left

theorem standsAt_headers : StandsAt (octets assembly.image) assembly.headersOffset
    (assembly.headers.flatMap sectionHeader) :=
  assembly.standsAt_sections.right.right.right.right

/-! ## Section headers -/

/-- The fields of the file header. -/
def fileFields : FileHeader := ⟨0, assembly.headersOffset, 0, 0, sectionHeaderSize, 5, 1⟩

/-- The section headers as they are read, before their names are looked up. -/
def nameless : List (Nat × Section) :=
  assembly.headers.map fun header => (header.1, { header.2 with name := none })

section

variable (hoffsets : assembly.headersOffset < 0x100000000)
include hoffsets

theorem read?_fileHeader : FileHeader.read? assembly.image = some assembly.fileFields := by
  have hslice : slice? assembly.image 0 fileHeaderSize
      = some (fileHeader assembly.headersOffset) := slice?_of_standsAt assembly.standsAt_fileHeader
  have hidentification : (fileHeader assembly.headersOffset).take identification.length
      = identification := rfl
  rw [FileHeader.read?, hslice]
  change (if (fileHeader assembly.headersOffset).take identification.length ≠ identification
    then none else some (⟨0, ofLittleEndian (toLittleEndian 4 assembly.headersOffset), 0, 0,
      sectionHeaderSize, 5, 1⟩ : FileHeader)) = _
  rw [if_neg (not_not.2 hidentification), ofLittleEndian_toLittleEndian_of_lt 4 hoffsets]
  rfl

/-- The section headers stand behind all sections, so their offset bounds every other number. -/
theorem headerFits {header : Nat × Section} (h : header ∈ assembly.headers) :
    HeaderFits header := by
  have hnameTable : nameTable.length = 57 := rfl
  have hpadded : (padded nameTable).length = 60 := rfl
  have hsymbols := length_le_padded assembly.symbolTable
  have hnames := length_le_padded assembly.names
  have hruns := length_le_padded assembly.runs
  have hnamesAddress := assembly.namesAddress.toNat_lt
  have hentriesAddress := assembly.entriesAddress.toNat_lt
  simp only [headersOffset, runsOffset, namesOffset, symbolTableOffset, nameTableOffset,
    fileHeaderSize] at hoffsets
  simp only [headers, sections, List.zip_cons_cons, List.zip_nil_left, List.mem_cons,
    List.not_mem_nil, or_false] at h
  rcases h with rfl | rfl | rfl | rfl | rfl
  all_goals
    constructor
    all_goals
      simp only [nullSection, nameTableSection, symbolTableSection, namesSection, runsSection,
        runsOffset, namesOffset, symbolTableOffset, nameTableOffset, fileHeaderSize,
        symbolTableKind, stringTableKind]
      omega

theorem sections?_image :
    assembly.fileFields.sections? assembly.image = some assembly.nameless := by
  have hread (i : Nat) (found : Nat × Section) (hi : assembly.nameless[i]? = some found) :
      readSection? assembly.image (assembly.headersOffset + i * sectionHeaderSize)
        = some found := by
    rw [nameless, List.getElem?_map] at hi
    obtain ⟨header, hheader, rfl⟩ := Option.map_eq_some_iff.1 hi
    exact readSection?_of_standsAt
      (assembly.standsAt_headers.getElem? length_sectionHeader hheader)
      (assembly.headerFits hoffsets (List.mem_of_getElem? hheader))
  have hinside : inside assembly.image assembly.headersOffset (5 * sectionHeaderSize) = true :=
    decide_eq_true assembly.standsAt_headers.length_le
  have hnonzero : assembly.headersOffset ≠ 0 := by
    rw [headersOffset, runsOffset, namesOffset, symbolTableOffset, nameTableOffset,
      fileHeaderSize]
    omega
  have htotal : assembly.fileFields.sectionTotal? assembly.image = some 5 := if_neg hnonzero
  have hmapM := mapM_range_of_getElem? hread
  rw [FileHeader.sections?, htotal, Option.bind_eq_bind, Option.bind_some, if_neg (by decide),
    if_neg (not_not.2 (show assembly.fileFields.sectionEntrySize = sectionHeaderSize from rfl))]
  change (if !inside assembly.image assembly.headersOffset (5 * sectionHeaderSize) then none
    else (List.range 5).mapM fun i =>
      readSection? assembly.image (assembly.headersOffset + i * sectionHeaderSize)) = _
  rw [hinside]
  exact hmapM

theorem headers?_image : Container.headers? assembly.image
    = some (assembly.nameless, some (nameTableOffset, nameTable.length)) := by
  rw [Container.headers?, assembly.read?_fileHeader hoffsets]
  change (FileHeader.sections? _ _).bind _ = _
  rw [assembly.sections?_image hoffsets]
  rfl

end

/-! ## Section names -/

theorem nameAt?_image (place : Nat) (hplace : place ≤ nameTable.length) :
    nameAt? assembly.image (some (nameTableOffset, nameTable.length)) place
      = if (nameTable.drop place).contains 0 then some ((nameTable.drop place).takeWhile (· != 0))
        else none := by
  have hslice := slice?_of_standsAt (assembly.standsAt_nameTable.drop hplace)
  rw [List.length_drop] at hslice
  change (if nameTable.length < place then none else _) = _
  rw [if_neg (Nat.not_lt.2 hplace), hslice]
  rfl

theorem named_image : Container.named assembly.image assembly.nameless
    (some (nameTableOffset, nameTable.length)) = assembly.sections := by
  have h0 := assembly.nameAt?_image 0 (by decide)
  have h1 := assembly.nameAt?_image 1 (by decide)
  have h2 := assembly.nameAt?_image 11 (by decide)
  have h3 := assembly.nameAt?_image 19 (by decide)
  have h4 := assembly.nameAt?_image 37 (by decide)
  simp only [Container.named, nameless, headers, sections, List.zip_cons_cons, List.zip_nil_left,
    List.map_cons, List.map_nil, h0, h1, h2, h3, h4]
  rfl

/-! ## Symbols -/

theorem length_symbolTable :
    assembly.symbolTable.length = assembly.symbols.length * symbolSize := by
  rw [symbolTable, List.length_flatMap]
  simp only [length_symbolOctets, List.map_const', List.sum_replicate_nat]

theorem symbolTable?_image : symbolTable? assembly.image assembly.sections symbolTableKind
    = some (⟨⟨assembly.symbolTable⟩⟩, .empty) := by
  have hdata : assembly.symbolTableSection.data? assembly.image
      = some ⟨⟨assembly.symbolTable⟩⟩ :=
    Section.data?_of_standsAt (show symbolTableKind ≠ noBitsKind by decide) rfl
      assembly.standsAt_symbolTable
  have hwhole : (⟨⟨assembly.symbolTable⟩⟩ : ByteArray).size % symbolSize == 0 := by
    rw [beq_iff_eq, ← length_octets, octets_mk, length_symbolTable, Nat.mul_mod_left]
  change (Option.filter _ (Section.data? _ _)).bind _ = _
  rw [hdata, Option.filter_some, if_pos hwhole]
  rfl

theorem symbolTable?_image_dynamic :
    symbolTable? assembly.image assembly.sections dynamicSymbolsKind = some (.empty, .empty) :=
  rfl

theorem readSymbol?_symbolTable {i : Nat} {symbol : Nat × Nat}
    (hi : assembly.symbols[i]? = some symbol) (hvalue : symbol.1 < 0x100000000)
    (hindex : symbol.2 < 0x10000) :
    readSymbol? ⟨⟨assembly.symbolTable⟩⟩ .empty i = some (symbolOf symbol) := by
  have hstands : StandsAt assembly.symbolTable (0 + i * symbolSize) (symbolOctets symbol) :=
    StandsAt.getElem? length_symbolOctets ⟨[], [], by simp [symbolTable], rfl⟩ hi
  rw [Nat.zero_add, ← octets_mk assembly.symbolTable] at hstands
  have hslice : slice? ⟨⟨assembly.symbolTable⟩⟩ (i * symbolSize) symbolSize
      = some (symbolOctets symbol) := slice?_of_standsAt hstands
  rw [readSymbol?, hslice]
  change some (⟨ofLittleEndian (toLittleEndian 4 symbol.1),
    homeOf .empty i (ofLittleEndian (toLittleEndian 2 symbol.2))⟩ : Symbol) = _
  rw [ofLittleEndian_toLittleEndian_of_lt 4 hvalue, ofLittleEndian_toLittleEndian_of_lt 2 hindex,
    symbolOf, homeOf_empty, homeOf_empty]

/-- The symbols of the literals, and two that belong to none. -/
def readSymbols : List Symbol :=
  (assembly.placed.map fun p => ⟨p.address, some entriesIndex⟩)
    ++ [⟨assembly.namesAddress.toNat, some namesIndex⟩, ⟨0x1234, none⟩]

def container : Container := ⟨assembly.image, assembly.sections, assembly.readSymbols⟩

theorem symbols_fit (haddresses : ∀ p ∈ assembly.placed, p.address < 0x100000000)
    {symbol : Nat × Nat} (h : symbol ∈ assembly.symbols) :
    symbol.1 < 0x100000000 ∧ symbol.2 < 0x10000 := by
  have hnames := assembly.namesAddress.toNat_lt
  simp only [symbols, List.mem_append, List.mem_cons, List.mem_map, List.not_mem_nil,
    or_false] at h
  rcases h with (rfl | ⟨p, hp, rfl⟩) | rfl | rfl
  · decide
  · exact ⟨haddresses p hp, show entriesIndex < 0x10000 by decide⟩
  · exact ⟨hnames, show namesIndex < 0x10000 by decide⟩
  · decide

/-- The container that was assembled is read. -/
theorem read?_image (hoffsets : assembly.headersOffset < 0x100000000)
    (haddresses : ∀ p ∈ assembly.placed, p.address < 0x100000000) :
    Container.read? assembly.image = some assembly.container := by
  rw [Container.read?_eq, assembly.headers?_image hoffsets]
  change Container.ofSections? _ (Container.named _ _ _) = _
  rw [named_image]
  refine (Container.ofSections?_eq_some_iff _).2 ⟨_, _, assembly.symbolTable?_image,
    assembly.symbolTable?_image_dynamic, ?_⟩
  have hcount : (⟨⟨assembly.symbolTable⟩⟩ : ByteArray).size / symbolSize
      = assembly.readSymbols.length + 1 := by
    rw [← length_octets, octets_mk, length_symbolTable, Nat.mul_div_cancel _ (by decide)]
    simp [symbols, readSymbols]
  have htail : assembly.readSymbols = assembly.symbols.tail.map symbolOf := by
    simp [symbols, readSymbols, symbolOf, homeOf_empty, entriesIndex, namesIndex, reservedIndex]
  have hsymbols : ((List.range (assembly.readSymbols.length + 1)).drop 1).filterMap
      (readSymbol? ⟨⟨assembly.symbolTable⟩⟩ .empty) = assembly.readSymbols := by
    rw [List.range_succ_eq_map, List.drop_succ_cons, List.drop_zero, List.filterMap_map]
    apply filterMap_range_of_getElem?
    intro i symbol hi
    rw [htail, List.getElem?_map, List.getElem?_tail] at hi
    obtain ⟨raw, hraw, rfl⟩ := Option.map_eq_some_iff.1 hi
    obtain ⟨hvalue, hindex⟩ := assembly.symbols_fit haddresses (List.mem_of_getElem? hraw)
    exact assembly.readSymbol?_symbolTable hraw hvalue hindex
  rw [hcount, hsymbols]
  rfl

end Assembly
end FirmwareTrace.Image
