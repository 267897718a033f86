import FirmwareTrace.Config.Basic
import FirmwareTrace.Json.Reader

/-! # Configurations in JSON

A configuration is an object, or an array of the same fields in order.  A field
may be left out, or the array cut short, where the field has a default.  Members
of other names are ignored, and no name may be given twice.
-/
namespace FirmwareTrace.Config
open Json

def text? : Document → Option String
  | .string text => text
  | _ => none

def flag? : Document → Option Bool
  | .bool value => some value
  | _ => none

def word? : Document → Option UInt32
  | .number written =>
    if written.all Char.isDigit then Numeral.word? 10 written else none
  | _ => none

/-- A format is its name, or an object with nothing but a null of that name. -/
def format? : Document → Option SourceFormat
  | .object [(some name, .null)] => SourceFormat.ofName? name
  | .string (some name) => SourceFormat.ofName? name
  | _ => none

def list? {α : Type} (read : Document → Option α) : Document → Option (List α)
  | .array items => items.mapM read
  | _ => none

/-- The fields of a record, by the names in order, each with its value if given. -/
def fields? (names : List String) : Document → Option (List (Option Document))
  | .array items =>
    if items.length ≤ names.length then
      some (items.map some ++ List.replicate (names.length - items.length) none)
    else none
  | .object members => do
    if members.any fun m => m.1.isNone then none
    else
      names.mapM fun name =>
        match members.filter fun m => m.1 = some name with
        | [] => some none
        | [m] => some (some m.2)
        | _ => none
  | _ => none

/-- Reads a field, or takes its default. -/
def orDefault {α : Type} (default : α) (read : Document → Option α) : Option Document → Option α
  | none => some default
  | some document => read document

def source? (document : Document) : Option Source := do
  match ← fields? ["path", "library_id"] document with
  | [some path, some library] => some ⟨← text? path, ← word? library⟩
  | _ => none

def ofDocument? (document : Document) : Option Config := do
  match ← fields? ["format", "providers", "follow"] document with
  | [format, sources, follow] =>
    some ⟨← orDefault .csv format? format, ← orDefault [] (list? source?) sources,
      ← orDefault false flag? follow⟩
  | _ => none

/-- Reads a configuration from JSON. -/
def ofJson? (text : String) : Option Config := (Json.read? text).bind ofDocument?

end FirmwareTrace.Config
