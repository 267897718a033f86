import FirmwareTrace.Json.Printer
import FirmwareTrace.Libraries
import FirmwareTrace.Record.Icl
import FirmwareTrace.Record.Spt

/-! # Dumps of libraries

The literals of all libraries as one JSON value.  Library ids and keys stand as
decimal member names, in ascending order, and the fields of a literal in a fixed
one, so equal libraries have equal dumps.
-/
namespace FirmwareTrace

def Table.toJson {κ α : Type} [Ranked κ] (encode : α → Json String) (table : Table κ α) :
    Json String :=
  .object (table.entries.map fun e =>
    (String.ofList (Numeral.decimal (Ranked.rank e.1)), encode e.2))

def Libraries.toJson {Literal : Type} (encode : Literal → Json String)
    (libraries : Libraries Literal) : Json String :=
  .object [("libraries", libraries.tables.toJson fun table => table.toJson encode)]

def Spt.Literal.toJson (literal : Literal) : Json String :=
  .object
    [("key", .ofNat literal.key.raw), ("filename", .string literal.filename),
      ("provider", .string literal.provider), ("level", .string literal.level),
      ("message", .string literal.message),
      ("params", .array (literal.params.toList.map Json.string))]

def Icl.Literal.toJson (literal : Literal) : Json String :=
  .object
    [("text", .string literal.text), ("filename", .string literal.filename),
      ("offset", .ofNat literal.offset.toNat), ("level", .ofNat literal.level.toNat),
      ("log_source", .ofNat literal.logSource.toNat), ("line", .ofNat literal.line.toNat),
      ("file_ref", .ofNat literal.fileRef.toNat), ("text_len", .ofNat literal.textLength.toNat)]

end FirmwareTrace
