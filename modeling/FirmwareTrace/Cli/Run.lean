import FirmwareTrace.Cli.Loading
import FirmwareTrace.Cli.Settings

/-! # Runs of the command line

A run resolves its settings, loads the sources, and then prints the literals or
decodes a trace, or both.  The output file is created when everything before
decoding has succeeded, and nothing else is ever written.
-/
namespace FirmwareTrace.Cli

def versionText : String := "0.1.0"

def helpLines : List String :=
  ["Decode binary firmware trace logs (SPT, ICL)",
    "",
    "Usage: fwlog [OPTIONS]",
    "",
    "Options:",
    "      --csv <PATH:LIB>   CSV symbol cache (can be repeated; selects SPT records)",
    "      --elf <PATH:LIB>   ELF image (can be repeated; selects ICL records)",
    "  -i, --input <FILE>     Binary trace file to decode",
    "  -o, --output <FILE>    Output file for decoded text (default: stdout)",
    "  -f, --follow           Keep decoding data appended to the input file",
    "  -c, --config <FILE>    Path to configuration file",
    "      --dump-providers   Print the loaded provider tables as JSON",
    "  -v, --verbose...       Verbosity level (can be repeated: -v, -vv)",
    "  -q, --quiet            Suppress all output except errors",
    "  -h, --help             Print help",
    "  -V, --version          Print version"]

def helpText : String := String.join (helpLines.map fun line => line ++ "\n")

/-- What a run leaves behind.  A followed run that waits has no status yet. -/
structure Result where
  status : Option Nat
  output : ByteArray := .empty
  /-- The text on the error output. -/
  errors : String := ""
  workspace : Workspace

/-! ## Decoding -/

/-- What is said of an item. -/
def itemRemark? (format : String) (item : Decode.Item) : Option Entry :=
  match item.outcome with
  | .ok rendered =>
    if rendered.overflowed then
      some ⟨.warn, .decoder, format ++ " record at " ++ number item.offset ++ " references "
        ++ number rendered.missing ++ " more arguments than its payload holds"⟩
    else none
  | .error why =>
    let reason := match why with
      | .invalidHeader => "InvalidHeader"
      | .unknownLibrary library => "UnknownLibrary(" ++ number library.toNat ++ ")"
      | .unknownKey library key =>
        "UnknownKey(" ++ number library.toNat ++ ", RecordKey(" ++ number key.raw ++ "))"
    some ⟨.trace, .decoder, format ++ " record at " ++ number item.offset ++ " not resolved: "
      ++ reason⟩

/-- What is said of a call of a followed run. -/
def callLog (format : String) : Decode.Call → List Entry
  | .pass items _ _ ending =>
    items.filterMap (itemRemark? format) ++
      match ending with
      | .error _ => []
      | .ok offset =>
        [⟨.debug, .decoder, "End of input at offset " ++ number offset ++ ", waiting for data"⟩]
  | _ => []

/-- What is said when a run has come to its end. -/
def summaryEntry (format : String) (stats : Decode.Stats) : Entry :=
  ⟨.info, .decoder, "Decoded " ++ number stats.rendered ++ " " ++ format ++ " records ("
    ++ number stats.unknown ++ " unknown) up to offset " ++ number stats.endOffset⟩

/-- What is said when the watcher has taken up its file. -/
def watchingRemark? (workspace : Workspace) (path : String) : Option Entry :=
  match Session.watchRefusal? workspace path, Watch.Target.ofPath path with
  | none, .ok target =>
    some ⟨.debug, .watcher, "Watching " ++ Text.quoted target.directory ++ " for changes to "
      ++ Text.quoted target.name⟩
  | _, _ => none

def warnings (input : String) (stats : Decode.Stats) : List Entry :=
  (if stats.unknown = 0 then []
    else [⟨.warn, .command, number stats.unknown ++ " unknown records in " ++ Text.quoted input⟩])
  ++ if stats.overflows = 0 then []
    else [⟨.warn, .command,
      number stats.overflows ++ " records had fewer payload words than their template"⟩]

/-- What is said while a file is decoded to its end. -/
def decodedLog (format input : String) (run : Session.Run) : List Entry :=
  run.items.filterMap (itemRemark? format) ++
    match run.outcome with
    | .error _ => []
    | .ok stats => summaryEntry format stats :: warnings input stats

/-- What is said while a file is followed. -/
def followedLog (workspace : Workspace) (format input : String) (run : Session.Run) : List Entry :=
  match workspace.openInput input with
  | .error _ => []
  | .ok _ => (watchingRemark? workspace input).toList ++ run.calls.flatMap (callLog format)

def decodingLog (workspace : Workspace) (session : Session) (input : String) (follow : Bool)
    (run : Session.Run) : List Entry :=
  let format := session.format.records.name
  ⟨.info, .decoder, "Decoding trace file: " ++ Text.quoted input⟩ ::
    if follow then followedLog workspace format input run else decodedLog format input run

/-! ## Outputs -/

/-- Creates the output file, empty. -/
def createOutput (workspace : Workspace) (path : String) :
    Except Report (Place × Workspace) :=
  match workspace.creatable path with
  | .error fault => .error (.ofIoFault ("Failed to create output file: " ++ Text.quoted path) fault)
  | .ok place => .ok (place, workspace.store place .empty)

/-- Where the decoded text goes, and the workspace while it is written. -/
def openOutput (workspace : Workspace) (output : Option String) :
    Except Report (Option Place × Workspace) :=
  match output with
  | none => .ok (none, workspace)
  | some path => (createOutput workspace path).map fun created => (some created.1, created.2)

/-- The text of all literals. -/
def dumpText (session : Session) : String := Json.print .indented session.dump ++ "\n"

def loadedEntry (session : Session) : Entry :=
  ⟨.info, .command, "Loaded " ++ number session.libraries.literalCount ++ " literals for "
    ++ number session.libraries.size ++ " libraries (" ++ session.format.name ++ " providers)"⟩

def titleEntries : List Entry :=
  [⟨.info, .command, "Firmware Log Decoder CLI v" ++ versionText⟩,
    ⟨.debug, .command, "Using decoder library v" ++ versionText⟩]

/-! ## Runs -/

/-- How a run stands. -/
inductive Standing
  | ended
  | failed (report : Report)
  /-- The watcher of a followed input has nothing more to tell for now. -/
  | waiting
  deriving DecidableEq, Repr

/-- How far a run got: what it said and wrote, and what became of it. -/
structure Outcome where
  log : List Entry
  output : ByteArray := .empty
  workspace : Workspace
  standing : Standing

/-- Adds what was said and printed before. -/
def Outcome.after (log : List Entry) (output : ByteArray) (outcome : Outcome) : Outcome :=
  { outcome with log := log ++ outcome.log, output := output ++ outcome.output }

/-- Decodes the input of a run. -/
def decodeInput (workspace : Workspace) (session : Session) (settings : Settings)
    (signals : List Decode.Signal) (input : String) : Outcome :=
  match openOutput workspace settings.output with
  | .error report => { log := [], workspace, standing := .failed report }
  | .ok (place, opened) =>
    let follow := settings.config.follow
    let run := session.runFile opened input {} follow signals
    let standing := match run.outcome with
      | .error failure => .failed (.ofFailure ("Failed to decode " ++ Text.quoted input) failure)
      | .ok _ => if follow then .waiting else .ended
    let log := decodingLog opened session input follow run
    match place with
    | none => { log, output := run.sink.written, workspace := opened, standing }
    | some place => { log, workspace := opened.store place run.sink.written, standing }

/-- Decodes the input of a run, if it has one; a dump needs none. -/
def decodeIfGiven (workspace : Workspace) (session : Session) (settings : Settings) (dump : Bool)
    (signals : List Decode.Signal) : Outcome :=
  match settings.input with
  | some input => decodeInput workspace session settings signals input
  | none =>
    let standing :=
      if dump then .ended
      else .failed ⟨"No input trace given (use --input or [input] file in the config)", []⟩
    { log := [], workspace, standing }

/-- Runs a command whose arguments are understood.  The signals answer the waits of
a followed run. -/
def perform (workspace : Workspace) (arguments : Arguments) (signals : List Decode.Signal) :
    Outcome :=
  let said := titleEntries ++ Settings.log workspace arguments
  match Settings.resolve workspace arguments with
  | .error report => { log := said, workspace, standing := .failed report }
  | .ok settings =>
    let said := said ++ loadingLog workspace settings.config
    match load workspace settings.config with
    | .error report => { log := said, workspace, standing := .failed report }
    | .ok session =>
      let dumped := if arguments.dump then (dumpText session).toUTF8 else .empty
      (decodeIfGiven workspace session settings arguments.dump signals).after
        (said ++ [loadedEntry session]) dumped

def Standing.status? : Standing → Option Nat
  | .ended => some 0
  | .failed _ => some 1
  | .waiting => none

def Standing.reportText : Standing → String
  | .failed report => report.text
  | _ => ""

/-- Runs the command line. -/
def run (workspace : Workspace) (arguments : List String) (signals : List Decode.Signal) :
    Result :=
  match read {} arguments with
  | .misuse => { status := some 2, workspace }
  | .help => { status := some 0, output := helpText.toUTF8, workspace }
  | .version => { status := some 0, output := ("fwlog " ++ versionText ++ "\n").toUTF8, workspace }
  | .run arguments =>
    let outcome := perform workspace arguments signals
    let shown := Level.shown arguments.quiet arguments.verbosity
    { status := outcome.standing.status?
      output := outcome.output
      errors := logText shown outcome.log ++ outcome.standing.reportText
      workspace := outcome.workspace }

end FirmwareTrace.Cli
