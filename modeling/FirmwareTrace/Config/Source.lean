import FirmwareTrace.Failure
import FirmwareTrace.Libraries
import FirmwareTrace.Text.Blank

/-! # Provider sources

A source is a path and the id of the library that its literals are filed under.
It is written `PATH:ID`, where the last colon divides the two and the id is a
numeral in decimal, or in hexadecimal after `0x`.
-/
namespace FirmwareTrace

/-- What the sources of a run are, which also says what its records are. -/
inductive SourceFormat
  /-- Symbol caches, for records with locations. -/
  | csv
  /-- Firmware images, for records with entry ids. -/
  | elf
  deriving DecidableEq, Repr

namespace SourceFormat

def name : SourceFormat → String
  | .csv => "csv"
  | .elf => "elf"

def ofName? (name : String) : Option SourceFormat :=
  [SourceFormat.csv, .elf].find? fun format => format.name = name

/-- The lower case of the twenty-six letters. -/
def lowerLetter (c : Char) : Char :=
  if 'A' ≤ c ∧ c ≤ 'Z' then Char.ofNat (c.toNat + 32) else c

/-- Reads a name in any case, with blanks around it. -/
def parse (text : String) : Except ConfigFault SourceFormat :=
  let name := String.ofList ((Text.trim text.toList).map lowerLetter)
  match ofName? name with
  | some format => .ok format
  | none => .error (.unknownFormat name)

end SourceFormat

/-- Reads a library id, with blanks around it. -/
def LibraryId.parse (text : List Char) : Except ConfigFault LibraryId :=
  let numeral := Text.trim text
  let value := match numeral with
    | '0' :: 'x' :: digits | '0' :: 'X' :: digits => Numeral.word? 16 digits
    | _ => Numeral.word? 10 numeral
  match value with
  | some id => .ok id
  | none => .error (.badLibraryId (String.ofList numeral))

structure Source where
  path : String
  library : LibraryId
  deriving DecidableEq, Repr

namespace Source

/-- The texts before and after the last occurrence of a character. -/
def splitLast (mark : Char) (cs : List Char) : Option (List Char × List Char) :=
  match cs.reverse.span (· != mark) with
  | (after, _ :: before) => some (before.reverse, after.reverse)
  | (_, []) => none

def parse (text : String) : Except ConfigFault Source :=
  match splitLast ':' text.toList with
  | none => .error (.missingLibraryId text)
  | some ([], _) => .error (.emptySourcePath text)
  | some (path, id) => (LibraryId.parse id).map fun library => ⟨String.ofList path, library⟩

end Source
end FirmwareTrace
