import FirmwareTrace.Image.Basic

/-! # Assembled images

An assembly places literals in an image: each at the first slot of a run of its own, its file
name among those of the image or none of them, and a symbol for its address.  `Assembly.image`
is the file that holds header, sections and section headers, each section at a multiple of four.
-/
namespace FirmwareTrace.Image
open Elf Bytes

/-- The file name of a literal: one that the image holds, or none, and then an address of
something else. -/
inductive FileName
  | stored (name : String)
  | absent (address : UInt32)

namespace FileName

/-- What the name takes up among the names. -/
def octets : FileName → List UInt8
  | .stored name => Utf8.encode name ++ [0]
  | .absent _ => []

/-- The address that the literal refers to, if names are stored from `next` on. -/
def address (next : Nat) : FileName → Nat
  | .stored _ => next
  | .absent address => address.toNat

/-- What the literal is said to come from. -/
def shown : FileName → String
  | .stored name => name
  | .absent _ => "unknown_filename"

end FileName

/-- A literal to be placed. -/
structure Entry where
  text : String
  file : FileName
  offset : UInt64
  level : UInt32
  logSource : UInt32
  line : UInt32
  /-- The slots of its run that it leaves empty. -/
  spare : Nat

def slotSize : Nat := 128

namespace Entry

def textOctets (entry : Entry) : List UInt8 := Utf8.encode entry.text ++ [0]

/-- The slots that the literal reaches into. -/
def slots (entry : Entry) : Nat :=
  (literalHeaderSize + entry.textOctets.length + slotSize - 1) / slotSize

/-- The number of octets of its run. -/
def size (entry : Entry) : Nat := slotSize * (entry.slots + entry.spare)

end Entry

/-- An entry with its own address and that of its file name. -/
structure Placed where
  entry : Entry
  address : Nat
  fileRef : Nat

namespace Placed

def octets (placed : Placed) : List UInt8 :=
  toLittleEndian 8 placed.entry.offset.toNat ++ toLittleEndian 4 placed.entry.level.toNat
    ++ toLittleEndian 4 placed.entry.logSource.toNat ++ toLittleEndian 4 placed.entry.line.toNat
    ++ toLittleEndian 4 placed.fileRef ++ toLittleEndian 4 placed.entry.textOctets.length
    ++ placed.entry.textOctets

/-- The literal and the zeros up to the end of its run. -/
def run (placed : Placed) : List UInt8 :=
  placed.octets ++ List.replicate (placed.entry.size - placed.octets.length) 0

/-- The literal that was placed. -/
def literal (placed : Placed) : Icl.Literal :=
  ⟨placed.entry.text, placed.entry.file.shown, placed.entry.offset, placed.entry.level,
    placed.entry.logSource, placed.entry.line, .ofNat placed.fileRef,
    .ofNat placed.entry.textOctets.length⟩

end Placed

/-- Places entries from an address on, and their names from the address `next` on. -/
def place (next address : Nat) : List Entry → List Placed
  | [] => []
  | entry :: rest =>
    ⟨entry, address, entry.file.address next⟩
      :: place (next + entry.file.octets.length) (address + entry.size) rest

/-- The literals of an image, and the addresses of the names and of the literals. -/
structure Assembly where
  namesAddress : UInt32
  entriesAddress : UInt32
  entries : List Entry

/-- Octets and zeros up to a multiple of four. -/
def padded (octets : List UInt8) : List UInt8 :=
  octets ++ List.replicate ((4 - octets.length % 4) % 4) 0

theorem length_le_padded (octets : List UInt8) : octets.length ≤ (padded octets).length := by
  rw [padded, List.length_append]
  exact Nat.le_add_right _ _

namespace Assembly

variable (assembly : Assembly)

def placed : List Placed :=
  place assembly.namesAddress.toNat assembly.entriesAddress.toNat assembly.entries

/-! ## Sections -/

/-- The names of the sections. -/
def nameTable : List UInt8 :=
  Utf8.encode "\x00.shstrtab\x00.symtab\x00.function_strings\x00.static_log_entries\x00"

def namesIndex : Nat := 3

def entriesIndex : Nat := 4

/-- A symbol without a name. -/
def symbolOctets (symbol : Nat × Nat) : List UInt8 :=
  toLittleEndian 4 0 ++ toLittleEndian 4 symbol.1 ++ toLittleEndian 4 0 ++ [0, 0]
    ++ toLittleEndian 2 symbol.2

/-- The values of the symbols with the indices of their sections: the null symbol, one for each
literal, one for the names and one that is defined in no section. -/
def symbols : List (Nat × Nat) :=
  (0, 0) :: (assembly.placed.map fun p => (p.address, entriesIndex))
    ++ [(assembly.namesAddress.toNat, namesIndex), (0x1234, 0xfff1)]

def symbolTable : List UInt8 := assembly.symbols.flatMap symbolOctets

def names : List UInt8 := assembly.entries.flatMap fun entry => entry.file.octets

def runs : List UInt8 := assembly.placed.flatMap Placed.run

/-! ## The file -/

def nameTableOffset : Nat := fileHeaderSize

def symbolTableOffset : Nat := nameTableOffset + (padded nameTable).length

def namesOffset : Nat := symbolTableOffset + (padded assembly.symbolTable).length

def runsOffset : Nat := assembly.namesOffset + (padded assembly.names).length

def headersOffset : Nat := assembly.runsOffset + (padded assembly.runs).length

def nullSection : Section := ⟨some (nameOctets ""), 0, 0, 0, 0, 0⟩

def nameTableSection : Section :=
  ⟨some (nameOctets ".shstrtab"), stringTableKind, 0, nameTableOffset, nameTable.length, 0⟩

def symbolTableSection : Section :=
  ⟨some (nameOctets ".symtab"), symbolTableKind, 0, symbolTableOffset,
    assembly.symbolTable.length, 1⟩

def namesSection : Section :=
  ⟨some (nameOctets ".function_strings"), 1, assembly.namesAddress.toNat, assembly.namesOffset,
    assembly.names.length, 0⟩

def runsSection : Section :=
  ⟨some (nameOctets ".static_log_entries"), 1, assembly.entriesAddress.toNat,
    assembly.runsOffset, assembly.runs.length, 0⟩

def sections : List Section :=
  [nullSection, nameTableSection, assembly.symbolTableSection, assembly.namesSection,
    assembly.runsSection]

/-- The header of a section whose name starts at a place of the name table. -/
def sectionHeader (header : Nat × Section) : List UInt8 :=
  let entrySize := if header.2.kind = symbolTableKind then symbolSize else 0
  [header.1, header.2.kind, 0, header.2.address, header.2.offset, header.2.size, header.2.link, 0,
    4, entrySize].flatMap (toLittleEndian 4)

def headers : List (Nat × Section) := [0, 1, 11, 19, 37].zip assembly.sections

/-- The header of an executable without programs, whose section headers stand at an offset. -/
def fileHeader (headersOffset : Nat) : List UInt8 :=
  identification ++ List.replicate 9 0 ++ [2, 94].flatMap (toLittleEndian 2)
    ++ [1, 0, 0, headersOffset, 0].flatMap (toLittleEndian 4)
    ++ [fileHeaderSize, 0, 0, sectionHeaderSize, 5, 1].flatMap (toLittleEndian 2)

def image : ByteArray :=
  ⟨⟨fileHeader assembly.headersOffset ++ padded nameTable ++ padded assembly.symbolTable
    ++ padded assembly.names ++ padded assembly.runs
    ++ assembly.headers.flatMap sectionHeader⟩⟩

/-- Texts and names hold no zero, names are not too long, an absent name has an address outside
the names, and all offsets and addresses are numbers of 32 bits. -/
structure Fits : Prop where
  text : ∀ entry ∈ assembly.entries, '\x00' ∉ entry.text.toList
  stored : ∀ entry ∈ assembly.entries, ∀ name, entry.file = .stored name →
    '\x00' ∉ name.toList ∧ (Utf8.encode name).length ≤ 4096
  absent : ∀ entry ∈ assembly.entries, ∀ address, entry.file = .absent address →
    address.toNat < assembly.namesAddress.toNat ∨
      assembly.namesAddress.toNat + assembly.names.length ≤ address.toNat
  offsets : assembly.headersOffset < 0x100000000
  addresses : ∀ placed ∈ assembly.placed,
    placed.address < 0x100000000 ∧ placed.fileRef < 0x100000000

end Assembly
end FirmwareTrace.Image
