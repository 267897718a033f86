import FirmwareTrace.Table

/-! # Libraries of literals

All literals of a decoding run, one table for each library id.  Filing a table
under an id that already has one merges the two, and a key keeps the definition
that was filed first.
-/
namespace FirmwareTrace

abbrev LiteralTable (Literal : Type) := Table RecordKey Literal

/-- Why a record matches no literal. -/
inductive Unresolved
  | invalidHeader
  | unknownLibrary (library : LibraryId)
  | unknownKey (library : LibraryId) (key : RecordKey)
  deriving DecidableEq, Repr

structure Libraries (Literal : Type) where
  tables : Table LibraryId (LiteralTable Literal)

namespace Libraries

variable {Literal : Type}

def empty : Libraries Literal := ⟨∅⟩

instance : EmptyCollection (Libraries Literal) := ⟨empty⟩

/-- Files a table under a library id. -/
def insert (libraries : Libraries Literal) (library : LibraryId)
    (table : LiteralTable Literal) : Libraries Literal :=
  ⟨libraries.tables.alter library fun
    | none => table
    | some known => known.merge table⟩

def library? (libraries : Libraries Literal) (library : LibraryId) :
    Option (LiteralTable Literal) :=
  libraries.tables.get? library

def resolve (libraries : Libraries Literal) (library : LibraryId) (key : RecordKey) :
    Except Unresolved Literal :=
  match libraries.library? library with
  | none => .error (.unknownLibrary library)
  | some table =>
    match table.get? key with
    | none => .error (.unknownKey library key)
    | some literal => .ok literal

/-- The ids that have a table, ascending. -/
def ids (libraries : Libraries Literal) : List LibraryId := libraries.tables.keys

def size (libraries : Libraries Literal) : Nat := libraries.tables.size

/-- The number of literals in all tables. -/
def literalCount (libraries : Libraries Literal) : Nat :=
  libraries.tables.entries.foldr (fun e count => e.2.size + count) 0

end Libraries
end FirmwareTrace
