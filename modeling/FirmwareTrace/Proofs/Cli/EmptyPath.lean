import FirmwareTrace.Proofs.Cli.Effects
import FirmwareTrace.Proofs.Workspace.Parents

/-! # Sources with an empty path

The paths of a configuration file are joined to its directory before the configuration is
checked.  A source that is given with an empty path is found out if the path of the file names
no directory; otherwise it stands for the directory that is named, passes the check, and fails
when it is loaded, `empty_path_refused`.
-/
namespace FirmwareTrace

/-- A source with its path inside a directory. -/
def Source.within (directory : String) (source : Source) : Source :=
  { source with path := Path.join directory source.path }

theorem Source.within_empty : Source.within "" = id := by
  funext source
  rw [within, Path.join_empty, id]

namespace Cli

open Settings

variable {workspace : Workspace} {arguments : Arguments} {file : ConfigFile}
  {path text directory : String}

/-! ## The sources of a file -/

theorem sourceOf_resolveEntry (directory : String) (entry : SourceEntry) :
    sourceOf (ConfigFile.resolveEntry directory entry)
      = (sourceOf entry).map (Source.within directory) := by
  cases entry with
  | source source => rfl
  | spec text =>
    unfold ConfigFile.resolveEntry
    cases hparse : Source.parse text with
    | ok source => simp [sourceOf, hparse, Except.map, Source.within]
    | error fault => simp [sourceOf, hparse, Except.map]

theorem mapM_sourceOf_resolveEntry (directory : String) (entries : List SourceEntry) :
    (entries.map (ConfigFile.resolveEntry directory)).mapM sourceOf
      = (entries.mapM sourceOf).map (List.map (Source.within directory)) := by
  induction entries with
  | nil => rfl
  | cons entry entries ih =>
    rw [List.map_cons, List.mapM_cons, List.mapM_cons, sourceOf_resolveEntry, ih]
    cases sourceOf entry with
    | error report => rfl
    | ok source => cases entries.mapM sourceOf <;> rfl

/-- The directory that the paths of a configuration file are joined to. -/
def baseOf (path : String) : String := (Path.parent? path).getD ""

theorem mapM_sourceOf_locatedAt (file : ConfigFile) (path : String) :
    (file.locatedAt path).entries.mapM sourceOf
      = (file.entries.mapM sourceOf).map (List.map (Source.within (baseOf path))) := by
  unfold ConfigFile.locatedAt baseOf
  cases Path.parent? path with
  | some directory => exact mapM_sourceOf_resolveEntry directory file.entries
  | none =>
    rw [Option.getD_none, Source.within_empty, List.map_id_fun]
    cases file.entries.mapM sourceOf <;> rfl

/-- A configuration file that is read, with arguments that give no sources. -/
structure Reads (workspace : Workspace) (arguments : Arguments) (path : String)
    (file : ConfigFile) : Prop where
  csv : arguments.csv = []
  elf : arguments.elf = []
  config : arguments.config = some path
  read : ∃ text, readText workspace path = .ok text ∧ ConfigFile.read? text = some file

namespace Reads

variable (h : Reads workspace arguments path file)
include h

theorem merge_eq :
    merge workspace arguments = (file.entries.mapM sourceOf).map fun sources =>
      { config :=
          { format := file.format
            sources := sources.map (Source.within (baseOf path))
            follow := file.follow || arguments.follow }
        input := arguments.input.or (file.locatedAt path).input
        output := arguments.output.or (file.locatedAt path).output } := by
  obtain ⟨hcsv, helf, hconfig, text, htext, hfile⟩ := h
  have hload : loadFile workspace path = .ok (file.locatedAt path) := by
    rw [loadFile, htext]
    simp only [hfile]
  have hfields : (file.locatedAt path).format = file.format ∧
      (file.locatedAt path).follow = file.follow := by
    unfold ConfigFile.locatedAt
    split <;> exact ⟨rfl, rfl⟩
  rw [merge, hconfig]
  change ((loadFile workspace path).bind ofFile).bind (override arguments) = _
  rw [hload]
  change (ofFile (file.locatedAt path)).bind (override arguments) = _
  rw [ofFile, mapM_sourceOf_locatedAt, hfields.1, hfields.2]
  cases file.entries.mapM sourceOf with
  | error report => rfl
  | ok sources => simp only [Except.map, Except.bind, override, withSources, hcsv, helf]

theorem exists_merge_iff :
    (∃ settings, merge workspace arguments = .ok settings) ↔
      ∀ entry ∈ file.entries, ∃ source, sourceOf entry = .ok source := by
  rw [h.merge_eq, ← Except.exists_mapM_eq_ok_iff]
  cases file.entries.mapM sourceOf <;> simp [Except.map]

theorem sources_of_merge {settings : Settings} (hmerge : merge workspace arguments = .ok settings) :
    ∃ sources, file.entries.mapM sourceOf = .ok sources ∧
      settings.config.sources = sources.map (Source.within (baseOf path)) := by
  rw [h.merge_eq] at hmerge
  obtain ⟨sources, hsources, rfl⟩ := Except.map_eq_ok_iff.1 hmerge
  exact ⟨sources, hsources, rfl⟩

/-- The same file gives the same settings, whatever else is in the workspace. -/
theorem merge_congr {other : Workspace} (hother : Reads other arguments path file) :
    merge other arguments = merge workspace arguments :=
  hother.merge_eq.trans h.merge_eq.symm

/-- An empty path stands for the directory of the file, if that is named. -/
theorem find_baseOf (hne : baseOf path ≠ "") :
    ∃ tick, workspace.find (Path.join (baseOf path) "") = .ok (.directory tick) := by
  obtain ⟨-, -, -, text, htext, -⟩ := h
  unfold readText at htext
  split at htext
  · cases htext
  next content hread =>
  obtain ⟨place, tick, hlocate, -⟩ := Workspace.read_eq_ok_iff.1 hread
  refine Workspace.find_join_empty hlocate ?_ hne
  unfold baseOf at hne ⊢
  cases hparent : Path.parent? path with
  | none => exact absurd (by rw [hparent]; rfl) hne
  | some directory => rfl

theorem not_read_baseOf (content : ByteArray) :
    workspace.read (Path.join (baseOf path) "") ≠ .ok content := by
  intro hread
  by_cases hbase : baseOf path = ""
  · rw [hbase] at hread
    cases hread
  · obtain ⟨tick, hfind⟩ := h.find_baseOf hbase
    rw [Workspace.read, hfind] at hread
    cases hread

end Reads

/-! ## The check -/

theorem validate_eq {config : Config} (h : config.sources ≠ []) :
    config.validate =
      if ∃ source ∈ config.sources, source.path = "" then .error .emptyPath else .ok () := by
  rw [Config.validate, Config.review, if_neg h, Config.reviewSources_fault]
  split_ifs <;> rfl

/-- An empty path is found out only where it is joined to nothing. -/
theorem validate_within {config : Config} {sources : List Source} {library : LibraryId}
    (hmem : ⟨"", library⟩ ∈ sources)
    (h : config.sources = sources.map (Source.within directory)) :
    config.validate = if directory = "" then .error .emptyPath else .ok () := by
  have hiff : (∃ source ∈ config.sources, source.path = "") ↔ directory = "" := by
    rw [h]
    constructor
    · rintro ⟨source, hsource, hpath⟩
      obtain ⟨given, -, rfl⟩ := List.mem_map.1 hsource
      by_contra hne
      exact Path.join_ne_empty hne given.path hpath
    · rintro rfl
      exact ⟨_, List.mem_map_of_mem hmem, rfl⟩
  have hsources : config.sources ≠ [] := by
    rw [h]
    exact List.ne_nil_of_mem (List.mem_map_of_mem hmem)
  rw [validate_eq hsources]
  simp only [hiff]

theorem check_of_emptyPath {settings : Settings}
    (h : settings.config.validate = .error .emptyPath) :
    check settings
      = .error (.ofFailure "No usable provider configuration" (.config .emptyPath)) := by
  rw [check, h]

theorem exists_failure_of_not_read (format : SourceFormat)
    (h : ∀ content, workspace.read path ≠ .ok content) :
    ∃ failure, format.load workspace path = .error failure := by
  cases hload : format.load workspace path with
  | error failure => exact ⟨failure, rfl⟩
  | ok table =>
    obtain ⟨content, hread, -⟩ := SourceFormat.load_eq_ok_iff.1 hload
    exact absurd hread (h content)

/-! ## Runs -/

section
variable (h : Reads workspace arguments path file) {library : LibraryId}
  (hempty : .source ⟨"", library⟩ ∈ file.entries)
include h hempty

theorem settings_of_merge {settings : Settings}
    (hmerge : merge workspace arguments = .ok settings) :
    settings.config.validate = (if baseOf path = "" then .error .emptyPath else .ok ()) ∧
      ⟨Path.join (baseOf path) "", library⟩ ∈ settings.config.sources ∧
      ∀ session, load workspace settings.config ≠ .ok session := by
  obtain ⟨sources, hentries, hsources⟩ := h.sources_of_merge hmerge
  have hgiven : ⟨"", library⟩ ∈ sources := (Except.mem_of_mapM_eq_ok hentries).2 ⟨_, hempty, rfl⟩
  have hmem : ⟨Path.join (baseOf path) "", library⟩ ∈ settings.config.sources := by
    rw [hsources]
    exact List.mem_map_of_mem hgiven
  obtain ⟨failure, hfailure⟩ :=
    exists_failure_of_not_read settings.config.format h.not_read_baseOf
  exact ⟨validate_within hgiven hsources, hmem, load_ne_ok hmem hfailure⟩

theorem resolve_of_baseOf_empty (hbase : baseOf path = "")
    (hsources : ∀ entry ∈ file.entries, ∃ source, sourceOf entry = .ok source) :
    resolve workspace arguments
      = .error (.ofFailure "No usable provider configuration" (.config .emptyPath)) := by
  obtain ⟨settings, hmerge⟩ := h.exists_merge_iff.2 hsources
  obtain ⟨hvalid, -⟩ := settings_of_merge h hempty hmerge
  rw [resolve, hmerge]
  exact check_of_emptyPath (hvalid.trans (if_pos hbase))

theorem resolve_ne_ok (hbase : baseOf path = "") (settings : Settings) :
    resolve workspace arguments ≠ .ok settings := by
  intro hresolve
  obtain ⟨hmerge, hvalid⟩ := merge_of_resolve hresolve
  obtain ⟨hfault, -⟩ := settings_of_merge h hempty hmerge
  cases (hfault.trans (if_pos hbase)).symm.trans hvalid

theorem perform_refused (signals : List Decode.Signal) :
    let outcome := perform workspace arguments signals
    (∃ report, outcome.standing = .failed report) ∧ outcome.output = .empty ∧
      outcome.workspace = workspace := by
  rw [perform]
  cases hresolve : resolve workspace arguments with
  | error report => exact ⟨⟨report, rfl⟩, rfl, rfl⟩
  | ok settings =>
    obtain ⟨-, -, hunloaded⟩ := settings_of_merge h hempty (merge_of_resolve hresolve).1
    dsimp only
    cases hload : load workspace settings.config with
    | ok session => exact absurd hload (hunloaded session)
    | error report => exact ⟨⟨report, rfl⟩, rfl, rfl⟩

/-- Where the check finds the path out, nothing but the configuration file is looked at. -/
theorem perform_congr {other : Workspace} (hother : Reads other arguments path file)
    (hbase : baseOf path = "") (signals later : List Decode.Signal) :
    perform other arguments later =
      { perform workspace arguments signals with workspace := other } := by
  have hmerge : merge other arguments = merge workspace arguments := h.merge_congr hother
  have hlog : Settings.log other arguments = Settings.log workspace arguments := by
    rw [Settings.log, Settings.log, hmerge]
  have hresolved : resolve other arguments = resolve workspace arguments := by
    rw [resolve, resolve, hmerge]
  cases hresolve : resolve workspace arguments with
  | ok settings => exact absurd hresolve (resolve_ne_ok h hempty hbase settings)
  | error report => rw [perform, perform, hresolved, hresolve, hlog]

end

/-- What a source with an empty path comes to.  If the path of the file names no directory, the
check finds it out before anything but the file is looked at.  Joined to a directory it passes
the check and leads to that directory, so that loading fails.  Either way the run fails, with
nothing printed or written. -/
theorem empty_path_refused (h : Reads workspace arguments path file) {library : LibraryId}
    (hempty : .source ⟨"", library⟩ ∈ file.entries) :
    ((∃ settings, merge workspace arguments = .ok settings) ↔
      ∀ entry ∈ file.entries, ∃ source, sourceOf entry = .ok source) ∧
    (∀ settings, merge workspace arguments = .ok settings →
      settings.config.validate = (if baseOf path = "" then .error .emptyPath else .ok ()) ∧
      ⟨Path.join (baseOf path) "", library⟩ ∈ settings.config.sources ∧
      ∀ session, load workspace settings.config ≠ .ok session) ∧
    (baseOf path = "" → (∀ entry ∈ file.entries, ∃ source, sourceOf entry = .ok source) →
      resolve workspace arguments
        = .error (.ofFailure "No usable provider configuration" (.config .emptyPath))) ∧
    (baseOf path ≠ "" →
      ∃ tick, workspace.find (Path.join (baseOf path) "") = .ok (.directory tick)) ∧
    ∀ signals,
      let outcome := perform workspace arguments signals
      (∃ report, outcome.standing = .failed report) ∧ outcome.output = .empty ∧
      outcome.workspace = workspace ∧
      (baseOf path = "" → ∀ other later, Reads other arguments path file →
        perform other arguments later = { outcome with workspace := other }) := by
  refine ⟨h.exists_merge_iff, fun settings => settings_of_merge h hempty,
    resolve_of_baseOf_empty h hempty, h.find_baseOf, fun signals => ?_⟩
  obtain ⟨hfailed, hprinted, hsame⟩ := perform_refused h hempty signals
  exact ⟨hfailed, hprinted, hsame, fun hbase other later hother =>
    perform_congr h hempty hother hbase signals later⟩

/-- A configuration with an empty path. -/
def emptyPathText : String :=
  "[providers]\nformat = \"csv\"\nsources = [\x7b path = \"\", library_id = 0 \x7d]"

def emptyPathFile : ConfigFile := ⟨none, false, none, .csv, [.source ⟨"", 0⟩]⟩

/-- The same configuration file in the working directory and below it. -/
def emptyPathWorkspace : Workspace where
  nodes :=
    [(⟨.working 0, ["c.toml"]⟩, .file emptyPathText.toUTF8 0),
      (⟨.working 0, ["d"]⟩, .directory 0),
      (⟨.working 0, ["c.toml", "d"]⟩, .file emptyPathText.toUTF8 0)]

def configured (path : String) : Arguments := { config := some path, input := some "t.bin" }

theorem reads_configured (h : readText emptyPathWorkspace path = .ok emptyPathText) :
    Reads emptyPathWorkspace (configured path) path emptyPathFile :=
  ⟨rfl, rfl, rfl, emptyPathText, h, by decide +kernel⟩

/-- The empty path is found out in the working directory, but not below it. -/
theorem empty_path_refused_below :
    let arguments := configured "d/c.toml"
    Reads emptyPathWorkspace (configured "c.toml") "c.toml" emptyPathFile ∧
      Reads emptyPathWorkspace arguments "d/c.toml" emptyPathFile ∧
      .source ⟨"", 0⟩ ∈ emptyPathFile.entries ∧
      baseOf "c.toml" = "" ∧ baseOf "d/c.toml" = "d" ∧
      resolve emptyPathWorkspace (configured "c.toml")
        = .error (.ofFailure "No usable provider configuration" (.config .emptyPath)) ∧
      (∃ settings, merge emptyPathWorkspace arguments = .ok settings ∧
        settings.config.validate = .ok () ∧ ⟨"d/", 0⟩ ∈ settings.config.sources) ∧
      (∃ tick, emptyPathWorkspace.find "d/" = .ok (.directory tick)) ∧
      ∃ report, (perform emptyPathWorkspace arguments []).standing = .failed report := by
  intro arguments
  have hmem : .source ⟨"", 0⟩ ∈ emptyPathFile.entries := List.mem_cons_self
  have hentries : ∀ entry ∈ emptyPathFile.entries, ∃ source, sourceOf entry = .ok source :=
    List.forall_mem_singleton.2 ⟨_, rfl⟩
  have hhere : Reads emptyPathWorkspace (configured "c.toml") "c.toml" emptyPathFile :=
    reads_configured (by decide +kernel)
  have hbelow : Reads emptyPathWorkspace arguments "d/c.toml" emptyPathFile :=
    reads_configured (by decide +kernel)
  have hbase : baseOf "c.toml" = "" := by decide
  have hbase' : baseOf "d/c.toml" = "d" := by decide
  obtain ⟨-, -, hrefused, -⟩ := empty_path_refused hhere hmem
  obtain ⟨hmerges, hsettings, -, hfound, hruns⟩ := empty_path_refused hbelow hmem
  rw [hbase'] at hsettings hfound
  obtain ⟨settings, hmerge⟩ := hmerges.2 hentries
  obtain ⟨hvalid, hsource, -⟩ := hsettings settings hmerge
  obtain ⟨hfailed, -⟩ := hruns []
  exact ⟨hhere, hbelow, hmem, hbase, hbase', hrefused hbase hentries,
    ⟨settings, hmerge, hvalid, hsource⟩, hfound (by decide), hfailed⟩

/-- A file below the working directory whose source has an empty path passes the check.  What is
reported is that a directory was loaded. -/
theorem empty_path_passes_below :
    readText emptyPathWorkspace "d/c.toml" = .ok emptyPathText ∧
      ConfigFile.read? emptyPathText = some emptyPathFile ∧
      .source ⟨"", 0⟩ ∈ emptyPathFile.entries ∧
      resolve emptyPathWorkspace (configured "d/c.toml")
        = .ok { config := { sources := [⟨"d/", 0⟩] }, input := some "t.bin" } ∧
      (perform emptyPathWorkspace (configured "d/c.toml") []).standing
        = .failed ⟨"Failed to build provider \"d/\"",
            ["IO error: Is a directory (os error 21)", "Is a directory (os error 21)"]⟩ :=
  ⟨by decide +kernel, by decide +kernel, List.mem_cons_self, by decide +kernel, by decide +kernel⟩

end Cli
end FirmwareTrace
