import FirmwareTrace.Elf.Container
import FirmwareTrace.Failure
import FirmwareTrace.Libraries
import FirmwareTrace.Record.Icl
import FirmwareTrace.Text.Utf8

/-! # Firmware images

An image carries its literals in sections whose names say so.  Each is a header
of 28 octets and a template, at the address of a symbol; the address without its
low seven bits is the entry id of the literal.  File names stand in a section of
their own.
-/
namespace FirmwareTrace.Image
open Elf

/-- The octets of an ASCII name. -/
def nameOctets (name : String) : List UInt8 := name.toList.map fun c => UInt8.ofNat c.toNat

def symbolSection : String := ".symtab"
def fileNameSection : String := ".function_strings"

/-- What the name of a literal section contains. -/
def literalMarker : String := "log_entries"

def unknownFilename : String := "unknown_filename"

/-- The longest file name that is read. -/
def filenameCapacity : Nat := 4096

def literalHeaderSize : Nat := 28

/-- Octets of the image and the address of the first. -/
structure Region where
  address : Nat
  data : ByteArray

/-- How far into the region an address lies, if it lies inside. -/
def Region.offsetOf? (region : Region) (address : Nat) : Option Nat :=
  if region.address ≤ address ∧ address < region.address + region.data.size then
    some (address - region.address)
  else none

/-- The text up to the first zero. -/
def cString (octets : List UInt8) : String :=
  String.ofList (Utf8.decodeLossy (octets.takeWhile (· != 0)))

/-- The file name at an address. -/
def filenameAt (names : Region) (address : Nat) : String :=
  match names.offsetOf? address with
  | some offset => cString (Bytes.stretch names.data offset filenameCapacity)
  | none => unknownFilename

/-- The literal at an offset of a literal section. -/
def readLiteral (names : Region) (data : ByteArray) (offset : Nat) :
    Except ContainerFault Icl.Literal :=
  match Bytes.slice? data offset literalHeaderSize with
  | none => .error .truncatedHeader
  | some header =>
    let field (start width : Nat) : Nat := Bytes.ofLittleEndian ((header.drop start).take width)
    let fileRef := field 20 4
    let textLength := field 24 4
    match Bytes.slice? data (offset + literalHeaderSize) textLength with
    | none => .error .truncatedText
    | some text =>
      .ok ⟨cString text, filenameAt names fileRef, .ofNat (field 0 8), .ofNat (field 8 4),
        .ofNat (field 12 4), .ofNat (field 16 4), .ofNat fileRef, .ofNat textLength⟩

/-- The entry id of a literal is its address without the low seven bits. -/
def keyOf (address : Nat) : RecordKey := .ofEntry (.ofNat (address >>> 7))

/-- What a symbol of a literal section comes to. -/
inductive Finding
  | literal (key : RecordKey) (literal : Icl.Literal)
  /-- The symbol lies outside its section. -/
  | outside (address : Nat) (region : Region)

/-- The finding of a symbol; none if it is defined in no literal section. -/
def find (names : Region) (regions : List (Nat × Region)) (symbol : Symbol) :
    Except ContainerFault (Option Finding) :=
  match symbol.home.bind fun home => regions.lookup home with
  | none => .ok none
  | some region =>
    match region.offsetOf? symbol.value with
    | none => .ok (some (.outside symbol.value region))
    | some offset =>
      (readLiteral names region.data offset).map fun l => some (.literal (keyOf symbol.value) l)

/-- The findings up to the first literal that is cut off, and how it is. -/
structure Findings where
  found : List Finding
  fault : Option ContainerFault

def findAll (names : Region) (regions : List (Nat × Region)) : List Symbol → Findings
  | [] => ⟨[], none⟩
  | symbol :: rest =>
    match find names regions symbol with
    | .error fault => ⟨[], some fault⟩
    | .ok none => findAll names regions rest
    | .ok (some finding) =>
      let others := findAll names regions rest
      { others with found := finding :: others.found }

def regionOf (container : Container) (sec : Section) : Except Failure Region :=
  match sec.data? container.bytes with
  | some data => .ok ⟨sec.address, data⟩
  | none => .error (.badContainer .malformed)

def sectionNamed? (container : Container) (name : String) : Option Section :=
  container.sections.find? fun s => s.name == some (nameOctets name)

def containsRun (run : List UInt8) : List UInt8 → Bool
  | [] => run.isEmpty
  | octet :: rest => run.isPrefixOf (octet :: rest) || containsRun run rest

/-- Whether the section holds literals; its name has to be UTF-8. -/
def isLiteralSection (sec : Section) : Bool :=
  match sec.name with
  | none => false
  | some name =>
    (Utf8.decode? name).isSome && containsRun (nameOctets literalMarker) name

/-- The literal sections by index; the null section is not one of them. -/
def literalRegions (container : Container) : Except Failure (List (Nat × Region)) :=
  let indexed := container.sections.zipIdx.drop 1
  (indexed.filter fun s => isLiteralSection s.1).mapM fun s =>
    (regionOf container s.1).map fun region => (s.2, region)

/-- An image whose sections were found. -/
structure Reading where
  regions : List (Nat × Region)
  symbolCount : Nat
  findings : Findings

/-- Finds the sections of an image and reads its literals. -/
def read (bytes : ByteArray) : Except Failure Reading := do
  let container ←
    match Container.read? bytes with
    | some container => .ok container
    | none => .error (.badContainer .malformed)
  if (sectionNamed? container symbolSection).isNone then .error (.missingSection symbolSection)
  else
    match sectionNamed? container fileNameSection with
    | none => .error (.missingSection fileNameSection)
    | some sec =>
      let names ← regionOf container sec
      let regions ← literalRegions container
      .ok ⟨regions, container.symbols.length, findAll names regions container.symbols⟩

def Finding.definition? : Finding → Option (RecordKey × Icl.Literal)
  | .literal key l => some (key, l)
  | .outside _ _ => none

/-- The table of the findings; a key keeps its first definition. -/
def Findings.table (findings : Findings) : Except Failure (LiteralTable Icl.Literal) :=
  match findings.fault with
  | some fault => .error (.badContainer fault)
  | none => .ok (Table.ofFirst (findings.found.filterMap Finding.definition?))

/-- Builds the literal table of a firmware image. -/
def build (bytes : ByteArray) : Except Failure (LiteralTable Icl.Literal) := do
  (← read bytes).findings.table

end FirmwareTrace.Image
