import FirmwareTrace.Record.Icl
import FirmwareTrace.Record.Spt
import FirmwareTrace.Table
import FirmwareTrace.Text.Lowercase
import FirmwareTrace.Workspace.Basic

/-! # Trace inspection

A walk over the records of a trace that needs no literals: every valid header is
listed, and an invalid one is passed by one word.  The report shows the headers
up to a limit and how many records each library has.
-/
namespace FirmwareTrace.Inspect

/-- A record with a valid header. -/
structure Entry (Header : Type) where
  offset : Nat
  size : Nat
  header : Header

/-- What a walk found, and the offset it stopped at. -/
structure Walk (Header : Type) where
  entries : List (Entry Header)
  invalid : Nat
  endOffset : Nat

def Walk.addEntry {Header : Type} (entry : Entry Header) (walk : Walk Header) : Walk Header :=
  { walk with entries := entry :: walk.entries }

def Walk.addInvalid {Header : Type} (walk : Walk Header) : Walk Header :=
  { walk with invalid := walk.invalid + 1 }

/-- Walks over octets that start at the given offset. -/
def walk {Header Literal : Type} (format : RecordFormat Header Literal) (offset : Nat)
    (octets : List UInt8) : Walk Header :=
  match _h : format.record? octets with
  | none => ⟨[], 0, offset⟩
  | some record =>
    let header := format.parse (record.take format.headerSize)
    if format.isValid header then
      (walk format (offset + record.length) (octets.drop record.length)).addEntry
        ⟨offset, record.length, header⟩
    else (walk format (offset + wordSize) (octets.drop wordSize)).addInvalid
termination_by octets.length
decreasing_by
  all_goals
    have := format.wordSize_le_of_record? _h
    have : 0 < wordSize := by decide
    simp only [List.length_drop]
    omega

/-- How many of the records belong to each library, by ascending id. -/
def libraryCounts {Header Literal : Type} (format : RecordFormat Header Literal)
    (entries : List (Entry Header)) : Table LibraryId Nat :=
  entries.foldl (fun counts entry =>
    counts.alter (format.libraryId entry.header) fun count => count.getD 0 + 1) ∅

/-! ## The report -/

def number (n : Nat) : String := String.ofList (Numeral.decimal n)

/-- A number behind blanks, up to the given width. -/
def column (width n : Nat) : String :=
  String.ofList (Numeral.padLeft ' ' width (Numeral.decimal n))

def describeSpt (header : Spt.Header) : String :=
  "ts=" ++ number header.timestamp.toNat ++ " core=" ++ number header.core.toNat ++ " lib="
    ++ number header.library.toNat ++ " module=" ++ number header.moduleId.toNat ++ " instance="
    ++ number header.instanceId.toNat ++ " file=" ++ number header.fileId.toNat ++ " line="
    ++ number header.line.toNat ++ " words=" ++ number header.payloadWords

def describeIcl (header : Icl.Header) : String :=
  "ts=" ++ number header.timestamp.toNat ++ " provider=" ++ number header.provider.toNat
    ++ " entry=0x" ++ String.ofList (Numeral.hex header.entryId.toNat) ++ " words="
    ++ number header.payloadWords

def entryLine {Header : Type} (describe : Header → String) (entry : Entry Header) : String :=
  column 8 entry.offset ++ ": " ++ describe entry.header ++ " (" ++ number entry.size ++ " bytes)\n"

/-- The listed records and the summary. -/
def report {Header Literal : Type} (format : RecordFormat Header Literal)
    (describe : Header → String) (limit : Nat) (content : ByteArray) : String :=
  let found := walk format 0 (Bytes.octets content)
  let trailing := content.size - found.endOffset
  String.join ((found.entries.take limit).map (entryLine describe))
    ++ "\n=== SUMMARY ===\nRecords: " ++ number found.entries.length
    ++ "\nInvalid headers skipped: " ++ number found.invalid ++ "\n"
    ++ String.join ((libraryCounts format found.entries).entries.map fun e =>
        "  library " ++ column 2 e.1.toNat ++ ": " ++ number e.2 ++ " records\n")
    ++ if trailing = 0 then ""
      else "Incomplete trailing record: " ++ number trailing ++ " bytes\n"

/-! ## The command -/

/-- What is asked for, after the path. -/
structure Options where
  /-- The name of the record format, in lower case. -/
  variant : String := "icl"
  limit : Nat := 50
  deriving DecidableEq, Repr

/-- Reads the arguments in order.  A limit that is no numeral is passed over, and
any other argument names the format. -/
def Options.read (options : Options) : List String → Options
  | [] => options
  | [argument] => { options with variant := Text.lowercase argument }
  | argument :: value :: rest =>
    if argument = "--limit" then
      let limit := (Numeral.bounded? 10 0x10000000000000000 value.toList).getD options.limit
      { options with limit }.read rest
    else { options with variant := Text.lowercase argument }.read (value :: rest)

/-- Exit status and standard output. -/
structure Result where
  status : Nat
  output : String
  deriving DecidableEq, Repr

def run (workspace : Workspace) : List String → Result
  | [] => ⟨1, ""⟩
  | path :: rest =>
    match workspace.read path with
    | .error _ => ⟨1, ""⟩
    | .ok content =>
      let options := ({} : Options).read rest
      let title := "Inspecting " ++ path ++ " (" ++ number content.size ++ " bytes) as "
        ++ options.variant ++ "\n"
      match options.variant with
      | "spt" => ⟨0, title ++ report Spt.format describeSpt options.limit content⟩
      | "icl" => ⟨0, title ++ report Icl.format describeIcl options.limit content⟩
      | _ => ⟨1, title⟩

end FirmwareTrace.Inspect
