import FirmwareTrace.Bytes

/-! # ELF containers

Sections and symbols of a 32-bit little-endian ELF file.  Reading is all or
nothing: a table that does not lie inside the file makes the whole file
unreadable, whether or not it would be used.
-/
namespace FirmwareTrace.Elf

/-- A section header, and its name if the name table holds one. -/
structure Section where
  name : Option (List UInt8)
  kind : Nat
  address : Nat
  offset : Nat
  size : Nat
  link : Nat
  deriving DecidableEq, Repr

/-- A symbol's value and the index of the section it is defined in. -/
structure Symbol where
  value : Nat
  home : Option Nat
  deriving DecidableEq, Repr

/-- The sections of a file, and its symbols without the null symbol in front. -/
structure Container where
  bytes : ByteArray
  sections : List Section
  symbols : List Symbol

def symbolTableKind : Nat := 2
def stringTableKind : Nat := 3
def noBitsKind : Nat := 8
def dynamicSymbolsKind : Nat := 11
def extendedIndicesKind : Nat := 18

/-- Section indices from here on are reserved. -/
def reservedIndex : Nat := 0xff00

/-- Says that the index proper is too large for its field and stands elsewhere. -/
def extendedIndex : Nat := 0xffff

def fileHeaderSize : Nat := 52
def programHeaderSize : Nat := 32
def sectionHeaderSize : Nat := 40
def symbolSize : Nat := 16

/-- Magic number, 32-bit class, little-endian data, version one. -/
def identification : List UInt8 := [0x7f, 0x45, 0x4c, 0x46, 1, 1, 1]

/-- The fields of the file header that reading depends on. -/
structure FileHeader where
  programOffset : Nat
  sectionOffset : Nat
  programEntrySize : Nat
  programCount : Nat
  sectionEntrySize : Nat
  sectionCount : Nat
  nameTable : Nat
  deriving DecidableEq, Repr

def FileHeader.read? (bytes : ByteArray) : Option FileHeader := do
  let header ← Bytes.slice? bytes 0 fileHeaderSize
  if header.take identification.length ≠ identification then none
  else
    let field (offset width : Nat) : Nat :=
      Bytes.ofLittleEndian ((header.drop offset).take width)
    some ⟨field 28 4, field 32 4, field 42 2, field 44 2, field 46 2, field 48 2, field 50 2⟩

/-- Whether a stretch lies inside the file. -/
def inside (bytes : ByteArray) (offset size : Nat) : Bool := decide (offset + size ≤ bytes.size)

/-- Whether the program headers, if there are any, can be read. -/
def FileHeader.programsReadable (header : FileHeader) (bytes : ByteArray) : Bool :=
  header.programOffset == 0 || header.programCount == 0
    || (header.programEntrySize == programHeaderSize
      && inside bytes header.programOffset (header.programCount * programHeaderSize))

/-- The section header at an offset, without its name, and where the name starts
in the name table. -/
def readSection? (bytes : ByteArray) (offset : Nat) : Option (Nat × Section) :=
  (Bytes.slice? bytes offset sectionHeaderSize).map fun header =>
    let field (at_ : Nat) : Nat := Bytes.ofLittleEndian ((header.drop at_).take 4)
    (field 0, ⟨none, field 4, field 12, field 16, field 20, field 24⟩)

/-- The number of sections; a zero in the file header refers to the size field of
the first section. -/
def FileHeader.sectionTotal? (header : FileHeader) (bytes : ByteArray) : Option Nat :=
  if header.sectionOffset = 0 then some 0
  else if header.sectionCount ≠ 0 then some header.sectionCount
  else if header.sectionEntrySize ≠ sectionHeaderSize then none
  else (readSection? bytes header.sectionOffset).map fun first => first.2.size

/-- The section headers in order, with the offsets of their names. -/
def FileHeader.sections? (header : FileHeader) (bytes : ByteArray) :
    Option (List (Nat × Section)) := do
  let total ← header.sectionTotal? bytes
  if total = 0 then some []
  else if header.sectionEntrySize ≠ sectionHeaderSize then none
  else if !inside bytes header.sectionOffset (total * sectionHeaderSize) then none
  else
    (List.range total).mapM fun i =>
      readSection? bytes (header.sectionOffset + i * sectionHeaderSize)

/-- The stretch of the file that holds the section names; none if the table has no
octets in the file. -/
def FileHeader.nameRange? (header : FileHeader) (sections : List (Nat × Section)) :
    Option (Option (Nat × Nat)) := do
  let index :=
    if header.nameTable = extendedIndex then (sections.head?.map fun s => s.2.link).getD 0
    else header.nameTable
  if index = 0 then none
  else
    let table ← sections[index]?
    some (if table.2.kind = noBitsKind then none else some (table.2.offset, table.2.size))

/-- The octets from an offset of the name table up to a zero inside it. -/
def nameAt? (bytes : ByteArray) (range : Option (Nat × Nat)) (offset : Nat) :
    Option (List UInt8) := do
  let (start, size) ← range
  if size < offset then none
  else
    let tail ← Bytes.slice? bytes (start + offset) (size - offset)
    if tail.contains 0 then some (tail.takeWhile (· != 0)) else none

namespace Section

/-- The octets of a section; none unless they all lie inside the file. -/
def data? (sec : Section) (bytes : ByteArray) : Option ByteArray :=
  if sec.kind = noBitsKind then some .empty
  else if inside bytes sec.offset sec.size then
    some (bytes.extract sec.offset (sec.offset + sec.size))
  else none

/-- Whether the link field names no section or a string table. -/
def linksStrings (sec : Section) (sections : List Section) : Bool :=
  sec.link == 0 || (sections[sec.link]?.any fun s => s.kind == stringTableKind)

end Section

/-- The octets of a section that is a table of entries of the given size; none if
they are no whole number of entries. -/
def Section.table? (sec : Section) (bytes : ByteArray) (entrySize : Nat) : Option ByteArray :=
  (sec.data? bytes).filter fun data => data.size % entrySize == 0

/-- The extended section indices for the symbol table at `index`: the octets of the
last such table, provided that all of them can be read. -/
def extendedIndices? (bytes : ByteArray) (sections : List Section) (index : Nat) :
    Option ByteArray :=
  sections.foldlM (fun found sec =>
    if sec.kind = extendedIndicesKind ∧ sec.link = index then sec.table? bytes 4 else some found)
    .empty

/-- The first section of a symbol table kind, its octets and its extended indices.
No such section means no symbols. -/
def symbolTable? (bytes : ByteArray) (sections : List Section) (kind : Nat) :
    Option (ByteArray × ByteArray) :=
  match sections.findIdx? fun s => s.kind == kind with
  | none => some (.empty, .empty)
  | some index => do
    let table ← sections[index]?
    let data ← table.table? bytes symbolSize
    if table.linksStrings sections then
      let extended ← extendedIndices? bytes sections index
      some (data, extended)
    else none

/-- The section index of the symbol at `position` in the table. -/
def homeOf (extended : ByteArray) (position field : Nat) : Option Nat :=
  if field = extendedIndex then
    match Bytes.number? extended (position * 4) 4 with
    | none | some 0 => none
    | some index => some index
  else if field = 0 ∨ reservedIndex ≤ field then none
  else some field

/-- The symbol at a position of the table. -/
def readSymbol? (data extended : ByteArray) (position : Nat) : Option Symbol :=
  (Bytes.slice? data (position * symbolSize) symbolSize).map fun entry =>
    ⟨Bytes.ofLittleEndian ((entry.drop 4).take 4),
      homeOf extended position (Bytes.ofLittleEndian ((entry.drop 14).take 2))⟩

/-- Reads a container. -/
def Container.read? (bytes : ByteArray) : Option Container := do
  let header ← FileHeader.read? bytes
  if !header.programsReadable bytes then none
  else
    let raw ← header.sections? bytes
    let range ← if raw.isEmpty then some none else header.nameRange? raw
    let sections := raw.map fun s => { s.2 with name := nameAt? bytes range s.1 }
    let (data, extended) ← symbolTable? bytes sections symbolTableKind
    let _ ← symbolTable? bytes sections dynamicSymbolsKind
    let positions := (List.range (data.size / symbolSize)).drop 1
    some ⟨bytes, sections, positions.filterMap (readSymbol? data extended)⟩

end FirmwareTrace.Elf
