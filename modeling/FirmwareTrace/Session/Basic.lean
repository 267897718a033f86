import FirmwareTrace.Config.Basic
import FirmwareTrace.Decode.Follow
import FirmwareTrace.Dump
import FirmwareTrace.Image.Basic
import FirmwareTrace.SymbolCache.Basic
import FirmwareTrace.Watch.Notify

/-! # Sessions

A session holds the libraries that were loaded from sources of one format, and
decodes traces of the records that belong to it.
-/
namespace FirmwareTrace

/-- Opens and reads a symbol cache. -/
def SymbolCache.load (workspace : Workspace) (path : String) : Except Failure Reading :=
  match workspace.find path with
  | .error fault => .error (.unreadableSource path fault)
  | .ok (.directory _) => .error (.io .isDirectory)
  | .ok (.file content _) => .ok (read (Bytes.octets content))

/-- Opens and reads a firmware image. -/
def Image.load (workspace : Workspace) (path : String) : Except Failure Reading :=
  match workspace.read path with
  | .error fault => .error (.unreadableSource path fault)
  | .ok content => read content

namespace SourceFormat

/-- The headers of the records that belong to a source format. -/
def Header : SourceFormat → Type
  | .csv => Spt.Header
  | .elf => Icl.Header

def Literal : SourceFormat → Type
  | .csv => Spt.Literal
  | .elf => Icl.Literal

def records : (format : SourceFormat) → RecordFormat format.Header format.Literal
  | .csv => Spt.format
  | .elf => Icl.format

/-- Loads the literal table of one source. -/
def load (workspace : Workspace) (path : String) :
    (format : SourceFormat) → Except Failure (LiteralTable format.Literal)
  | .csv => (SymbolCache.load workspace path).bind fun reading => reading.table
  | .elf => (Image.load workspace path).bind fun reading => reading.findings.table

def literalToJson : (format : SourceFormat) → format.Literal → Json String
  | .csv => Spt.Literal.toJson
  | .elf => Icl.Literal.toJson

end SourceFormat

structure Session where
  format : SourceFormat
  libraries : Libraries format.Literal

namespace Session

def empty (format : SourceFormat) : Session := ⟨format, ∅⟩

def decoder (session : Session) : Decoder session.format.Header session.format.Literal :=
  ⟨session.format.records, session.libraries⟩

/-- Files the table of a source.  A source that fails to load changes nothing. -/
def add (session : Session) (workspace : Workspace) (source : Source) : Except Failure Session :=
  match session.format.load workspace source.path with
  | .error failure => .error failure
  | .ok table => .ok ⟨session.format, session.libraries.insert source.library table⟩

/-- Adds sources in order, up to the first that fails to load. -/
def addAll (session : Session) (workspace : Workspace) (sources : List Source) :
    Except Failure Session :=
  sources.foldlM (fun session source => session.add workspace source) session

/-- Loads all sources of a configuration that is fit for a run. -/
def ofConfig (workspace : Workspace) (config : Config) : Except Failure Session :=
  match config.validate with
  | .error fault => .error (.config fault)
  | .ok () => (empty config.format).addAll workspace config.sources

/-- All libraries, with the format they were loaded from. -/
def dump (session : Session) : Json String :=
  .object
    [("format", .string session.format.name),
      ("tables", session.libraries.toJson session.format.literalToJson)]

/-- What decoding a file comes to.  A followed run has the calls that it made. -/
structure Run where
  sink : Channel.Sink
  items : List Decode.Item
  calls : List Decode.Call
  outcome : Except Failure Decode.Stats

/-- Why the file at a path cannot be watched. -/
def watchRefusal? (workspace : Workspace) (path : String) : Option WatchFault :=
  match ({} : Watch.Notify).subscribe path (Watch.observable workspace) with
  | .error fault => some fault
  | .ok _ => none

/-- Decodes the trace at a path, following it if asked.  The signals answer the
waits of a followed run. -/
def runFile (session : Session) (workspace : Workspace) (path : String) (sink : Channel.Sink)
    (follow : Bool) (signals : List Decode.Signal) : Run :=
  match workspace.openInput path with
  | .error fault => ⟨sink, [], [], .error (.io fault)⟩
  | .ok stream =>
    let input : Channel.Input := .buffered stream []
    if follow then
      let run := session.decoder.follow input sink (watchRefusal? workspace path) signals
      ⟨run.sink, run.items, run.journal, run.outcome⟩
    else
      let run := session.decoder.decode input sink
      ⟨run.sink, run.items, [], run.outcome⟩

end Session
end FirmwareTrace
