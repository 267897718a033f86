import FirmwareTrace.Config.Basic
import FirmwareTrace.Toml.Reader
import FirmwareTrace.Workspace.Path

/-! # Configuration files

A file names the input, the output, and the format and sources of the literals.
Relative paths in it are meant from the directory of the file.
-/
namespace FirmwareTrace
open Toml

/-- A source as a file gives it: `PATH:ID`, or the two apart. -/
inductive SourceEntry
  | spec (text : String)
  | source (source : Source)
  deriving DecidableEq, Repr

structure ConfigFile where
  input : Option String
  follow : Bool
  output : Option String
  format : SourceFormat
  entries : List SourceEntry
  deriving DecidableEq, Repr

namespace ConfigFile

/-! ## Reading -/

/-- The fields of a record: by name, or in order. -/
inductive Fields
  | named (members : Members)
  | ordered (items : List Value)

/-- A date is taken for a record without known names. -/
def fields? : Value → Option Fields
  | .table _ members => some (.named members)
  | .array _ items => some (.ordered items)
  | .datetime => some (.named [])
  | _ => none

def Fields.get? (fields : Fields) (name : String) (index : Nat) : Option Value :=
  match fields with
  | .named members => members.lookup name
  | .ordered items => items[index]?

def text? : Value → Option String
  | .string text => some text
  | _ => none

def flag? : Value → Option Bool
  | .bool value => some value
  | _ => none

/-- The path of a record's first field, which may be left out by name only. -/
def file? (fields : Fields) : Option (Option String) :=
  match fields, fields.get? "file" 0 with
  | _, some value => (text? value).map some
  | .named _, none => some none
  | .ordered _, none => none

def input? : Option Value → Option (Option String × Bool)
  | none => some (none, false)
  | some value => do
    let fields ← fields? value
    let file ← file? fields
    match fields.get? "follow" 1 with
    | none => some (file, false)
    | some value => some (file, ← flag? value)

def output? : Option Value → Option (Option String)
  | none => some none
  | some value => (fields? value).bind file?

def isEmptyContainer : Value → Bool
  | .table _ [] | .array _ [] => true
  | _ => false

/-- A format is its name, or a table with nothing but an empty entry of that name. -/
def format? : Value → Option SourceFormat
  | .string name => SourceFormat.ofName? name
  | .table _ [(name, value)] => if isEmptyContainer value then SourceFormat.ofName? name else none
  | _ => none

def library? : Value → Option LibraryId
  | .integer n => if 0 ≤ n ∧ n < 0x100000000 then some (.ofNat n.toNat) else none
  | _ => none

def source? (path library : Option Value) : Option SourceEntry := do
  let path ← text? (← path)
  let library ← library? (← library)
  some (.source ⟨path, library⟩)

def entryOf? : Value → Option SourceEntry
  | .string text => some (.spec text)
  | .table _ members => source? (members.lookup "path") (members.lookup "library_id")
  | .array _ [path, library] => source? (some path) (some library)
  | _ => none

def entries? : Value → Option (List SourceEntry)
  | .array _ items => items.mapM entryOf?
  | _ => none

def ofMembers? (members : Members) : Option ConfigFile := do
  let (input, follow) ← input? (members.lookup "input")
  let output ← output? (members.lookup "output")
  let providers ← fields? (← members.lookup "providers")
  let format ← format? (← providers.get? "format" 0)
  let entries ← entries? (← providers.get? "sources" 1)
  some { input, follow, output, format, entries }

/-- Reads the text of a file. -/
def read? (text : String) : Option ConfigFile := (Toml.read? text).bind ofMembers?

/-! ## Paths -/

/-- An entry with its path inside a directory.  A text that is no source stays. -/
def resolveEntry (directory : String) : SourceEntry → SourceEntry
  | .source source => .source { source with path := Path.join directory source.path }
  | .spec text =>
    match Source.parse text with
    | .ok source => .source { source with path := Path.join directory source.path }
    | .error _ => .spec text

/-- The file with all its paths inside a directory. -/
def resolve (file : ConfigFile) (directory : String) : ConfigFile :=
  { file with
    input := file.input.map (Path.join directory)
    output := file.output.map (Path.join directory)
    entries := file.entries.map (resolveEntry directory) }

/-- The file with its paths as they are meant by a file at the given path. -/
def locatedAt (file : ConfigFile) (path : String) : ConfigFile :=
  match Path.parent? path with
  | some directory => file.resolve directory
  | none => file

end ConfigFile
end FirmwareTrace
