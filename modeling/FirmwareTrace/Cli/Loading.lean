import FirmwareTrace.Cli.Log
import FirmwareTrace.Cli.Report
import FirmwareTrace.Session.Basic

/-! # Loading the sources of a run

The sources are loaded independently of each other, and may be done in any order.
Their tables are then filed in the order of the configuration, so that the order
of loading does not show in the result.
-/
namespace FirmwareTrace.Cli

def number (n : Nat) : String := String.ofList (Numeral.decimal n)

/-- What loading one source came to, and what was said meanwhile. -/
structure Attempt (Literal : Type) where
  source : Source
  log : List Entry
  result : Except Failure (LiteralTable Literal)

/-! ## Symbol caches -/

def duplicateLine (entry : SymbolCache.Entry) : Entry :=
  ⟨.debug, .symbolCaches, "Duplicate literal for file " ++ number entry.literal.key.fileId.toNat
    ++ " line " ++ number entry.literal.key.line.toNat ++ " at line " ++ number entry.line
    ++ ", keeping first definition"⟩

/-- What is said of a reading and its table. -/
def symbolCacheLog (path : String) (reading : SymbolCache.Reading) : List Entry :=
  reading.duplicates.map duplicateLine ++
    match reading.table with
    | .error _ => []
    | .ok table =>
      [⟨.info, .symbolCaches,
        "Parsed " ++ number table.size ++ " literals from " ++ Text.quoted path⟩]

def attemptSymbolCache (workspace : Workspace) (source : Source) : Attempt Spt.Literal :=
  let start : Entry := ⟨.info, .symbolCaches, "Parsing CSV provider: " ++ Text.quoted source.path⟩
  match SymbolCache.load workspace source.path with
  | .error failure => ⟨source, [start], .error failure⟩
  | .ok reading => ⟨source, start :: symbolCacheLog source.path reading, reading.table⟩

/-! ## Firmware images -/

/-- An address of eight hexadecimal digits. -/
def address (n : Nat) : String := "0x" ++ String.ofList (Numeral.padLeft '0' 8 (Numeral.hex n))

/-- What is said of findings, given the keys that are defined already. -/
def findingLog (known : Table RecordKey Unit) : List Image.Finding → List Entry
  | [] => []
  | .outside value region :: rest =>
    ⟨.warn, .images, "Symbol at " ++ address value ++ " lies outside its section ("
      ++ address region.address ++ ", " ++ number region.data.size ++ " bytes), skipping"⟩
      :: findingLog known rest
  | .literal key _ :: rest =>
    if known.contains key then
      ⟨.debug, .images, "Duplicate literal for entry " ++ key.display
        ++ ", keeping first definition"⟩ :: findingLog known rest
    else findingLog (known.insertNew key ()) rest

def imageLog (path : String) (reading : Image.Reading) : List Entry :=
  ⟨.debug, .images, "ELF image: " ++ number reading.regions.length ++ " literal sections, "
    ++ number reading.symbolCount ++ " symbols"⟩ :: findingLog ∅ reading.findings.found ++
    match reading.findings.table with
    | .error _ => []
    | .ok table =>
      [⟨.info, .images, "Extracted " ++ number table.size ++ " literals from " ++ Text.quoted path⟩]

def attemptImage (workspace : Workspace) (source : Source) : Attempt Icl.Literal :=
  let start : Entry := ⟨.info, .images, "Parsing ELF provider: " ++ Text.quoted source.path⟩
  match Image.load workspace source.path with
  | .error failure => ⟨source, [start], .error failure⟩
  | .ok reading => ⟨source, start :: imageLog source.path reading, reading.findings.table⟩

/-! ## All sources -/

def attempt (workspace : Workspace) (source : Source) :
    (format : SourceFormat) → Attempt format.Literal
  | .csv => attemptSymbolCache workspace source
  | .elf => attemptImage workspace source

def Attempt.failure? {Literal : Type} (attempt : Attempt Literal) : Option (Source × Failure) :=
  match attempt.result with
  | .error failure => some (attempt.source, failure)
  | .ok _ => none

def Attempt.table? {Literal : Type} (attempt : Attempt Literal) :
    Option (LibraryId × LiteralTable Literal) :=
  match attempt.result with
  | .error _ => none
  | .ok table => some (attempt.source.library, table)

/-- The first attempt to fail, when they are done in the given order. -/
def firstFailure {Literal : Type} (attempts : List (Attempt Literal)) (order : List Nat) :
    Option (Source × Failure) :=
  order.findSome? fun index => attempts[index]?.bind Attempt.failure?

/-- Files the tables in the order of the attempts. -/
def fileTables {Literal : Type} (attempts : List (Attempt Literal)) : Libraries Literal :=
  (attempts.filterMap Attempt.table?).foldl (fun libraries t => libraries.insert t.1 t.2) ∅

/-- Loads all sources of a configuration; `order` tells which are done first. -/
def loadInOrder (workspace : Workspace) (config : Config) (order : List Nat) :
    Except Report Session :=
  let attempts := config.sources.map fun source => attempt workspace source config.format
  match firstFailure attempts order with
  | some (source, failure) =>
    .error (.ofFailure ("Failed to build provider " ++ Text.quoted source.path) failure)
  | none => .ok ⟨config.format, fileTables attempts⟩

/-- Loads all sources one after the other. -/
def load (workspace : Workspace) (config : Config) : Except Report Session :=
  loadInOrder workspace config (List.range config.sources.length)

/-! ## What is said -/

def buildingEntry {Header Literal : Type} (format : RecordFormat Header Literal)
    (source : Source) : Entry :=
  ⟨.info, .command, "Building " ++ format.name ++ " provider: " ++ Text.quoted source.path⟩

/-- What is said while sources are loaded, up to the first that fails. -/
def attemptsLog {Header Literal : Type} (format : RecordFormat Header Literal) :
    List (Attempt Literal) → List Entry
  | [] => []
  | attempt :: rest =>
    buildingEntry format attempt.source :: attempt.log ++
      if attempt.failure?.isSome then [] else attemptsLog format rest

/-- What is said while tables are filed. -/
def filingLog {Literal : Type} (libraries : Libraries Literal) :
    List (LibraryId × LiteralTable Literal) → List Entry
  | [] => []
  | (library, table) :: rest =>
    let dropped := match libraries.library? library with
      | none => 0
      | some known => known.overlap table
    let later := filingLog (libraries.insert library table) rest
    if dropped = 0 then later
    else
      ⟨.debug, .libraries, "Library " ++ number library.toNat ++ ": " ++ number dropped
        ++ " duplicate literals ignored while merging providers"⟩ :: later

/-- What is said while the sources of a configuration are loaded. -/
def loadingLog (workspace : Workspace) (config : Config) : List Entry :=
  let attempts := config.sources.map fun source => attempt workspace source config.format
  attemptsLog config.format.records attempts ++
    if attempts.any fun attempt => attempt.failure?.isSome then []
    else filingLog ∅ (attempts.filterMap Attempt.table?)

end FirmwareTrace.Cli
