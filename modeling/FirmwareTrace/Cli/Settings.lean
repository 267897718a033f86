import FirmwareTrace.Cli.Arguments
import FirmwareTrace.Cli.Log
import FirmwareTrace.Cli.Report
import FirmwareTrace.Config.File
import FirmwareTrace.Text.Utf8
import FirmwareTrace.Workspace.Basic

/-! # Settings

The settings of a run: those of the configuration file, if there is one, each
replaced by the argument that gives it anew.  They are checked before any source
is loaded.
-/
namespace FirmwareTrace.Cli

structure Settings where
  config : Config := {}
  input : Option String := none
  output : Option String := none
  deriving DecidableEq, Repr

namespace Settings

/-- The source of an entry. -/
def sourceOf : SourceEntry → Except Report Source
  | .source source => .ok source
  | .spec text =>
    match Source.parse text with
    | .ok source => .ok source
    | .error fault =>
      .error (.ofFailure ("Invalid provider source in config: " ++ text) (.config fault))

/-- The settings that a configuration file gives. -/
def ofFile (file : ConfigFile) : Except Report Settings :=
  (file.entries.mapM sourceOf).map fun sources =>
    { config := { format := file.format, sources, follow := file.follow }
      input := file.input
      output := file.output }

/-- The text of a configuration file. -/
def readText (workspace : Workspace) (path : String) : Except IoFault String :=
  match workspace.read path with
  | .error fault => .error fault
  | .ok content =>
    match Utf8.decode? (Bytes.octets content) with
    | some text => .ok (String.ofList text)
    | none => .error .notUtf8

/-- Loads a configuration file, with its paths as they are meant. -/
def loadFile (workspace : Workspace) (path : String) : Except Report ConfigFile :=
  match readText workspace path with
  | .error fault => .error (.ofIoFault ("Failed to read config file: " ++ Text.quoted path) fault)
  | .ok text =>
    match ConfigFile.read? text with
    | some file => .ok (file.locatedAt path)
    | none => .error ⟨"Failed to parse config file: " ++ Text.quoted path, []⟩

/-- The settings before the arguments are looked at. -/
def base (workspace : Workspace) (config : Option String) : Except Report Settings :=
  match config with
  | none => .ok {}
  | some path => (loadFile workspace path).bind ofFile

/-- The configuration with the sources of the arguments, if there are any. -/
def withSources (arguments : Arguments) (config : Config) : Except Report Config :=
  match arguments.csv, arguments.elf with
  | [], [] => .ok config
  | sources, [] => .ok { config with format := .csv, sources }
  | [], sources => .ok { config with format := .elf, sources }
  | _, _ => .error ⟨"--csv and --elf cannot be combined; pick one record format", []⟩

/-- The settings with all that the arguments give. -/
def override (arguments : Arguments) (settings : Settings) : Except Report Settings :=
  (withSources arguments settings.config).map fun config =>
    { config := { config with follow := config.follow || arguments.follow }
      input := arguments.input.or settings.input
      output := arguments.output.or settings.output }

/-- Whether a run can be made with the settings. -/
def check (settings : Settings) : Except Report Settings :=
  match settings.config.validate with
  | .error fault => .error (.ofFailure "No usable provider configuration" (.config fault))
  | .ok () =>
    if settings.config.follow ∧ settings.input = none then
      .error ⟨"--follow needs an input file", []⟩
    else .ok settings

/-- The settings of a run, before they are checked. -/
def merge (workspace : Workspace) (arguments : Arguments) : Except Report Settings :=
  (base workspace arguments.config).bind (override arguments)

/-- The settings of a run. -/
def resolve (workspace : Workspace) (arguments : Arguments) : Except Report Settings :=
  (merge workspace arguments).bind check

/-! ## What is said -/

def unmatchableEntry (source : Source) : Entry :=
  ⟨.warn, .config, "Library id " ++ String.ofList (Numeral.decimal source.library.toNat) ++ " for "
    ++ Text.quoted source.path ++ " exceeds "
    ++ String.ofList (Numeral.decimal Config.maxLibraryId.toNat) ++ "; no record can match it"⟩

/-- What is said while the settings are resolved. -/
def log (workspace : Workspace) (arguments : Arguments) : List Entry :=
  let loading := arguments.config.toList.map fun path =>
    ⟨.info, .command, "Loading configuration from: " ++ Text.quoted path⟩
  match merge workspace arguments with
  | .error _ => loading
  | .ok settings => loading ++ settings.config.review.unmatchable.map unmatchableEntry

end Settings
end FirmwareTrace.Cli
