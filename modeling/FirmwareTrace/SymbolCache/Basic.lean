import FirmwareTrace.Libraries
import FirmwareTrace.SymbolCache.Record
import FirmwareTrace.Text.Utf8

/-! # Symbol caches

A symbol cache is a text of records, one to a line.  Lines end at a line feed;
blank lines are skipped but counted.  Reading stops at the first bad line, and a
key keeps its first definition.
-/
namespace FirmwareTrace.SymbolCache

def lineFeed : UInt8 := 10

/-- A line without its line feed, and whether it had one. -/
structure Line where
  body : List UInt8
  terminated : Bool
  deriving DecidableEq, Repr

theorem length_lt_of_dropWhile {p : UInt8 → Bool} {octets rest : List UInt8} {octet : UInt8}
    (h : octets.dropWhile p = octet :: rest) : rest.length < octets.length := by
  have := (List.dropWhile_sublist p (l := octets)).length_le
  rw [h, List.length_cons] at this
  omega

/-- Cuts the octets after every line feed. -/
def lines : List UInt8 → List Line
  | [] => []
  | first :: more =>
    let body := (first :: more).takeWhile (· != lineFeed)
    match h : (first :: more).dropWhile (· != lineFeed) with
    | [] => [⟨body, false⟩]
    | _ :: rest =>
      have := length_lt_of_dropWhile h
      ⟨body, true⟩ :: lines rest
termination_by octets => octets.length
decreasing_by exact this

/-- The text without one carriage return at its end. -/
def dropReturn (cs : List Char) : List Char :=
  if cs.getLast? = some '\r' then cs.dropLast else cs

/-- The record on a line: the carriage return of its line ending is dropped, then
at most one more. -/
def Line.record? (line : Line) : Option (List Char) :=
  (Utf8.decode? line.body).map fun cs => dropReturn (if line.terminated then dropReturn cs else cs)

/-- The literal on a line, or nothing on a blank one. -/
def Line.literal? (number : Nat) (line : Line) : Except Failure (Option Spt.Literal) :=
  match line.record? with
  | none => .error (.io .notUtf8)
  | some record =>
    if Text.trim record = [] then .ok none else (readRecord number record).map some

/-- A literal and the number of the line that defines it. -/
structure Entry where
  line : Nat
  literal : Spt.Literal
  deriving DecidableEq, Repr

/-- The definitions up to the first bad line, and what is wrong with that line. -/
structure Reading where
  entries : List Entry
  fault : Option Failure

def Reading.cons (entry : Entry) (reading : Reading) : Reading :=
  { reading with entries := entry :: reading.entries }

/-- Reads lines that are numbered from `number` on. -/
def readLines (number : Nat) : List Line → Reading
  | [] => ⟨[], none⟩
  | line :: rest =>
    match line.literal? number with
    | .error fault => ⟨[], some fault⟩
    | .ok none => readLines (number + 1) rest
    | .ok (some literal) => (readLines (number + 1) rest).cons ⟨number, literal⟩

def read (octets : List UInt8) : Reading := readLines 1 (lines octets)

/-- The table of a reading without a fault. -/
def Reading.table (reading : Reading) : Except Failure (LiteralTable Spt.Literal) :=
  match reading.fault with
  | some fault => .error fault
  | none => .ok (Table.ofFirst (reading.entries.map fun e => (e.literal.key, e.literal)))

/-- The entries whose key has an earlier definition. -/
def Reading.duplicates (reading : Reading) : List Entry :=
  let step := fun (state : Table RecordKey Unit × List Entry) (entry : Entry) =>
    if state.1.contains entry.literal.key then (state.1, entry :: state.2)
    else (state.1.insertNew entry.literal.key (), state.2)
  (reading.entries.foldl step (∅, [])).2.reverse

/-- Builds the literal table of a symbol cache. -/
def build (octets : List UInt8) : Except Failure (LiteralTable Spt.Literal) := (read octets).table

end FirmwareTrace.SymbolCache
