import FirmwareTrace.Proofs.Cli.EmptyPath
import FirmwareTrace.Proofs.Config.SourceText

/-! # Arguments over configuration files

The settings of a run come from its arguments and from a configuration file.  Each field is the
one of the arguments, as they give it, or else the one of the file, with its paths meant from the
directory of the file.  The settings are looked at only after that.  What they come to, and when
there is no run, is `resolve_by_field`.
-/
namespace FirmwareTrace

namespace SourceEntry

variable {entry other : SourceEntry} {source : Source}

/-- The source that an entry stands for. -/
inductive Means : SourceEntry → Source → Prop
  | spec {text : String} {source : Source} (written : Source.Written text source) :
      Means (.spec text) source
  | source (source : Source) : Means (.source source) source

/-- The second entry is the first one in the other form. -/
inductive Restates : SourceEntry → SourceEntry → Prop
  | apart {text : String} {source : Source} (written : Source.Written text source) :
      Restates (.spec text) (.source source)
  | joined {text : String} {source : Source} (written : Source.Written text source) :
      Restates (.source source) (.spec text)

theorem sourceOf_of_written {text : String} (h : Source.Written text source) :
    Cli.Settings.sourceOf (.spec text) = .ok source := by
  rw [Cli.Settings.sourceOf, Source.parse_eq_ok_iff.2 h]

theorem Means.sourceOf_eq (h : Means entry source) : Cli.Settings.sourceOf entry = .ok source := by
  cases h with
  | spec hwritten => exact sourceOf_of_written hwritten
  | source => rfl

theorem Restates.sourceOf_eq (h : Restates entry other) :
    Cli.Settings.sourceOf other = Cli.Settings.sourceOf entry := by
  cases h with
  | apart hwritten => exact (sourceOf_of_written hwritten).symm
  | joined hwritten => exact sourceOf_of_written hwritten

/-- Every source but one with an empty path can be written in both forms. -/
theorem Means.exists_restates (h : Means entry source) (hpath : source.path ≠ "") :
    ∃ other, Restates entry other := by
  cases h with
  | spec hwritten => exact ⟨_, .apart hwritten⟩
  | source =>
    have hnumeral : LibraryId.Written (Numeral.decimal source.library.toNat) source.library :=
      LibraryId.written_of_mem_numerals List.mem_cons_self
    exact ⟨_, .joined (Source.parse_eq_ok_iff.1 (Source.parse_append hpath hnumeral))⟩

end SourceEntry

/-- The second file is the first one with some entries in the other form. -/
structure ConfigFile.Restates (file other : ConfigFile) : Prop where
  input : other.input = file.input
  follow : other.follow = file.follow
  output : other.output = file.output
  format : other.format = file.format
  entries : List.Forall₂ (fun entry again => again = entry ∨ entry.Restates again)
    file.entries other.entries

namespace Cli

open Settings

/-- The file that is read at a path. -/
def FileAt (workspace : Workspace) (path : String) (file : ConfigFile) : Prop :=
  ∃ text, readText workspace path = .ok text ∧ ConfigFile.read? text = some file

/-- A configuration file with its path, and its sources as they are written in it. -/
structure Given where
  path : String
  file : ConfigFile
  sources : List Source

namespace Given

/-- What a relative path of the file is put after. -/
def lead (given : Given) : String :=
  let directory := baseOf given.path
  if directory = "" ∨ directory.toList.getLast? = some '/' then directory else directory ++ "/"

/-- A path of the file as it is meant. -/
def located (given : Given) (path : String) : String :=
  if Path.isAbsolute path then path else given.lead ++ path

def locatedSources (given : Given) : List Source :=
  given.sources.map fun source => { source with path := given.located source.path }

/-- The file is read where it is said to be, and every entry is a source. -/
structure Loads (workspace : Workspace) (given : Given) : Prop where
  read : FileAt workspace given.path given.file
  sources : List.Forall₂ SourceEntry.Means given.file.entries given.sources

theorem located_eq_join (given : Given) : given.located = Path.join (baseOf given.path) := by
  funext path
  unfold located lead Path.join
  dsimp only
  split_ifs <;> first | rfl | contradiction

theorem locatedSources_eq (given : Given) :
    given.locatedSources = given.sources.map (Source.within (baseOf given.path)) := by
  rw [locatedSources, located_eq_join]
  rfl

end Given

/-- The arguments name the file that is given, if one is, and the file can be loaded. -/
structure Names (workspace : Workspace) (arguments : Arguments) (given : Option Given) : Prop where
  config : arguments.config = given.map Given.path
  loads : ∀ file ∈ given, file.Loads workspace

/-- The settings that the arguments and the file come to, each field by itself. -/
def merged (arguments : Arguments) (given : Option Given) : Settings where
  config :=
    { format :=
        if arguments.csv ≠ [] then .csv
        else if arguments.elf ≠ [] then .elf
        else (given.map fun given => given.file.format).getD .csv
      sources :=
        if arguments.csv ≠ [] then arguments.csv
        else if arguments.elf ≠ [] then arguments.elf
        else (given.map Given.locatedSources).getD []
      follow := arguments.follow || given.any fun given => given.file.follow }
  input := arguments.input.or (given.bind fun given => given.file.input.map given.located)
  output := arguments.output.or (given.bind fun given => given.file.output.map given.located)

/-- Why there is no run with the settings. -/
inductive Refused (arguments : Arguments) (settings : Settings) : Prop
  | bothFormats (csv : arguments.csv ≠ []) (elf : arguments.elf ≠ [])
  | noSources (sources : settings.config.sources = [])
  | emptyPath (sources : ∃ source ∈ settings.config.sources, source.path = "")
  | noInput (follow : settings.config.follow = true) (input : settings.input = none)

variable {workspace : Workspace} {arguments : Arguments} {given : Option Given}

/-! ## The file -/

theorem loadFile_of_fileAt {path : String} {file : ConfigFile} (h : FileAt workspace path file) :
    loadFile workspace path = .ok (file.locatedAt path) := by
  obtain ⟨text, htext, hfile⟩ := h
  rw [loadFile, htext]
  simp only [hfile]

theorem locatedAt_fields (file : ConfigFile) (path : String) :
    (file.locatedAt path).format = file.format ∧ (file.locatedAt path).follow = file.follow ∧
      (file.locatedAt path).input = file.input.map (Path.join (baseOf path)) ∧
      (file.locatedAt path).output = file.output.map (Path.join (baseOf path)) := by
  unfold ConfigFile.locatedAt baseOf
  cases Path.parent? path with
  | some directory => exact ⟨rfl, rfl, rfl, rfl⟩
  | none =>
    -- the file is left alone, and so are paths that are joined to nothing
    have hjoin : Path.join "" = id := funext Path.join_empty
    simp [hjoin]

theorem ofFile_locatedAt (file : ConfigFile) (path : String) :
    ofFile (file.locatedAt path) = (file.entries.mapM sourceOf).map fun sources =>
      { config :=
          { format := file.format
            sources := sources.map (Source.within (baseOf path))
            follow := file.follow }
        input := file.input.map (Path.join (baseOf path))
        output := file.output.map (Path.join (baseOf path)) } := by
  obtain ⟨hformat, hfollow, hinput, houtput⟩ := locatedAt_fields file path
  rw [ofFile, mapM_sourceOf_locatedAt, hformat, hfollow, hinput, houtput]
  cases file.entries.mapM sourceOf <;> rfl

theorem mapM_sourceOf_restates {entries others : List SourceEntry}
    (h : List.Forall₂ (fun entry other => other = entry ∨ entry.Restates other) entries others) :
    others.mapM sourceOf = entries.mapM sourceOf := by
  induction h with
  | nil => rfl
  | cons hentry _ ih =>
    have hsource := hentry.elim (congrArg sourceOf) SourceEntry.Restates.sourceOf_eq
    rw [List.mapM_cons, List.mapM_cons, hsource, ih]

/-- Files that are alike but for the forms of their entries give the same settings. -/
theorem ofFile_locatedAt_restates {file other : ConfigFile} (h : file.Restates other)
    (path : String) : ofFile (other.locatedAt path) = ofFile (file.locatedAt path) := by
  rw [ofFile_locatedAt, ofFile_locatedAt, mapM_sourceOf_restates h.entries, h.format, h.follow,
    h.input, h.output]

/-! ## The merge -/

/-- Without arguments the settings are those of the file. -/
theorem Names.base_eq (h : Names workspace arguments given) :
    base workspace arguments.config = .ok (merged {} given) := by
  obtain ⟨hconfig, hloads⟩ := h
  rw [hconfig]
  cases given with
  | none => rfl
  | some given =>
    obtain ⟨hread, hmeans⟩ := hloads given rfl
    have hsources : given.file.entries.mapM sourceOf = .ok given.sources :=
      Except.mapM_eq_ok_iff.2 (hmeans.imp fun _ _ => SourceEntry.Means.sourceOf_eq)
    change (loadFile workspace given.path).bind ofFile = _
    rw [loadFile_of_fileAt hread]
    change ofFile (given.file.locatedAt given.path) = _
    rw [ofFile_locatedAt, hsources]
    simp [merged, Except.map, Given.locatedSources_eq, Given.located_eq_join]

theorem override_merged (arguments : Arguments) (given : Option Given) :
    override arguments (merged {} given) =
      if arguments.csv ≠ [] ∧ arguments.elf ≠ [] then
        .error ⟨"--csv and --elf cannot be combined; pick one record format", []⟩
      else .ok (merged arguments given) := by
  unfold override withSources
  rcases hcsv : arguments.csv with _ | ⟨first, csv⟩ <;>
    rcases helf : arguments.elf with _ | ⟨front, elf⟩ <;>
    simp [merged, hcsv, helf, Except.map, Bool.or_comm]

theorem Names.merge_eq (h : Names workspace arguments given) :
    merge workspace arguments =
      if arguments.csv ≠ [] ∧ arguments.elf ≠ [] then
        .error ⟨"--csv and --elf cannot be combined; pick one record format", []⟩
      else .ok (merged arguments given) := by
  rw [merge, h.base_eq]
  exact override_merged arguments given

/-- Nothing but the settings of the file comes from the workspace. -/
theorem merge_restates {other : Workspace} {path : String} {file again : ConfigFile}
    (hconfig : arguments.config = some path) (hfile : FileAt workspace path file)
    (hagain : FileAt other path again) (h : file.Restates again) :
    merge other arguments = merge workspace arguments := by
  rw [merge, merge, hconfig]
  change ((loadFile other path).bind ofFile).bind _ = ((loadFile workspace path).bind ofFile).bind _
  rw [loadFile_of_fileAt hfile, loadFile_of_fileAt hagain]
  exact congrArg (Except.bind · (override arguments)) (ofFile_locatedAt_restates h path)

/-! ## The check -/

/-- What is asked of the settings, in order. -/
theorem check_eq (settings : Settings) :
    check settings =
      if settings.config.sources = [] then
        .error (.ofFailure "No usable provider configuration" (.config .noProviders))
      else if ∃ source ∈ settings.config.sources, source.path = "" then
        .error (.ofFailure "No usable provider configuration" (.config .emptyPath))
      else if settings.config.follow = true ∧ settings.input = none then
        .error ⟨"--follow needs an input file", []⟩
      else .ok settings := by
  by_cases hsources : settings.config.sources = []
  · rw [check, if_pos hsources, Config.validate, Config.review, if_pos hsources]
  · rw [check, if_neg hsources, validate_eq hsources]
    split_ifs <;> rfl

/-! ## The settings of a run -/

/-- Either there is a run with the merged settings, or it is refused with a report. -/
theorem Names.resolve_cases (h : Names workspace arguments given) :
    (resolve workspace arguments = .ok (merged arguments given) ∧
        ¬Refused arguments (merged arguments given)) ∨
      (∃ report, resolve workspace arguments = .error report) ∧
        Refused arguments (merged arguments given) := by
  rw [resolve, h.merge_eq]
  by_cases hboth : arguments.csv ≠ [] ∧ arguments.elf ≠ []
  · rw [if_pos hboth]
    exact .inr ⟨⟨_, rfl⟩, .bothFormats hboth.1 hboth.2⟩
  rw [if_neg hboth]
  change check _ = _ ∧ _ ∨ (∃ report, check _ = _) ∧ _
  rw [check_eq]
  split_ifs with hsources hpath hinput
  · exact .inr ⟨⟨_, rfl⟩, .noSources hsources⟩
  · exact .inr ⟨⟨_, rfl⟩, .emptyPath hpath⟩
  · exact .inr ⟨⟨_, rfl⟩, .noInput hinput.1 hinput.2⟩
  · refine .inl ⟨rfl, fun hrefused => ?_⟩
    cases hrefused with
    | bothFormats hcsv helf => exact hboth ⟨hcsv, helf⟩
    | noSources h => exact hsources h
    | emptyPath h => exact hpath h
    | noInput hfollow h => exact hinput ⟨hfollow, h⟩

theorem Names.resolve_eq_ok_iff (h : Names workspace arguments given) {settings : Settings} :
    resolve workspace arguments = .ok settings ↔
      settings = merged arguments given ∧ ¬Refused arguments (merged arguments given) := by
  rcases h.resolve_cases with ⟨hok, hrefused⟩ | ⟨⟨report, herror⟩, hrefused⟩
  · simp [hok, hrefused, eq_comm]
  · simp [herror, hrefused]

theorem Names.exists_resolve_eq_error_iff (h : Names workspace arguments given) :
    (∃ report, resolve workspace arguments = .error report) ↔
      Refused arguments (merged arguments given) := by
  rcases h.resolve_cases with ⟨hok, hrefused⟩ | ⟨herror, hrefused⟩
  · simp [hok, hrefused]
  · exact iff_of_true herror hrefused

/-- Each field is the one of the arguments, as it is there, or else the one of the file, with
relative paths put into the directory of the file.  These are the settings of the run, unless both
formats are asked for, there is no source or one without a path, or nothing can be followed.
Any source of the file whose path is not empty has another form, and the form is of no account. -/
theorem resolve_by_field (h : Names workspace arguments given) :
    (∀ settings, resolve workspace arguments = .ok settings ↔
      settings = merged arguments given ∧ ¬Refused arguments (merged arguments given)) ∧
    ((∃ report, resolve workspace arguments = .error report) ↔
      Refused arguments (merged arguments given)) ∧
    ∀ loaded ∈ given,
      List.Forall₂ (fun entry source => source.path ≠ "" → ∃ other, entry.Restates other)
        loaded.file.entries loaded.sources ∧
      ∀ other again, FileAt other loaded.path again → loaded.file.Restates again →
        resolve other arguments = resolve workspace arguments ∧
          Settings.log other arguments = Settings.log workspace arguments := by
  refine ⟨fun _ => h.resolve_eq_ok_iff, h.exists_resolve_eq_error_iff, fun loaded hgiven => ?_⟩
  obtain ⟨hread, hmeans⟩ := h.loads loaded hgiven
  refine ⟨hmeans.imp fun _ _ => SourceEntry.Means.exists_restates, ?_⟩
  intro other again hagain hrestates
  have hconfig : arguments.config = some loaded.path := by
    rw [h.config, Option.mem_def.1 hgiven, Option.map_some]
  have hmerge := merge_restates hconfig hread hagain hrestates
  exact ⟨by rw [resolve, resolve, hmerge], by rw [Settings.log, Settings.log, hmerge]⟩

/-- A configuration below the working directory, with both forms of sources. -/
def mixedText : String :=
  "input.file = \"t.bin\"\noutput.file = \"/o.txt\"\n[providers]\nformat = \"elf\"\n" ++
    "sources = [\"a.elf:0\", \x7b path = \"/b:1.elf\", library_id = 1 \x7d]"

def mixedFile : ConfigFile :=
  ⟨some "t.bin", false, some "/o.txt", .elf, [.spec "a.elf:0", .source ⟨"/b:1.elf", 1⟩]⟩

/-- The same configuration with each source in its other form. -/
def restatedText : String :=
  "input.file = \"t.bin\"\noutput.file = \"/o.txt\"\n[providers]\nformat = \"elf\"\n" ++
    "sources = [\x7b path = \"a.elf\", library_id = 0 \x7d, \"/b:1.elf: 0x1\"]"

def restatedFile : ConfigFile :=
  { mixedFile with entries := [.source ⟨"a.elf", 0⟩, .spec "/b:1.elf: 0x1"] }

def belowWorkspace (text : String) : Workspace where
  nodes := [(⟨.working 0, ["d"]⟩, .directory 0),
    (⟨.working 0, ["c.toml", "d"]⟩, .file text.toUTF8 0)]

theorem written_bare : Source.Written "a.elf:0" ⟨"a.elf", 0⟩ :=
  Source.parse_eq_ok_iff.1 (by decide +kernel)

theorem restates_mixedFile : mixedFile.Restates restatedFile := by
  have hcolon : Source.Written "/b:1.elf: 0x1" ⟨"/b:1.elf", 1⟩ :=
    Source.parse_eq_ok_iff.1 (by decide +kernel)
  exact ⟨rfl, rfl, rfl, rfl,
    .cons (.inr (.apart written_bare)) (.cons (.inr (.joined hcolon)) .nil)⟩

/-- The input and a source are put below the directory of the file, the output is the one of the
arguments, and the other forms of the sources give the same run. -/
theorem resolve_by_field_below :
    let workspace := belowWorkspace mixedText
    let other := belowWorkspace restatedText
    let arguments : Arguments :=
      { config := some "d/c.toml", output := some "out.txt", follow := true }
    let given : Given := ⟨"d/c.toml", mixedFile, [⟨"a.elf", 0⟩, ⟨"/b:1.elf", 1⟩]⟩
    let settings : Settings :=
      { config := ⟨.elf, [⟨"d/a.elf", 0⟩, ⟨"/b:1.elf", 1⟩], true⟩
        input := some "d/t.bin"
        output := some "out.txt" }
    Cli.read {} ["-c", "d/c.toml", "-o", "out.txt", "-f"] = .run arguments ∧
      Names workspace arguments (some given) ∧ merged arguments (some given) = settings ∧
      ¬Refused arguments settings ∧ resolve workspace arguments = .ok settings ∧
      FileAt other "d/c.toml" restatedFile ∧ mixedFile.Restates restatedFile ∧
      resolve other arguments = .ok settings := by
  intro workspace other arguments given settings
  have hread : Cli.read {} ["-c", "d/c.toml", "-o", "out.txt", "-f"] = .run arguments := by
    decide +kernel
  have hfile : FileAt workspace "d/c.toml" mixedFile :=
    ⟨mixedText, by decide +kernel, by decide +kernel⟩
  have hagain : FileAt other "d/c.toml" restatedFile :=
    ⟨restatedText, by decide +kernel, by decide +kernel⟩
  have hnames : Names workspace arguments (some given) := by
    refine ⟨rfl, fun file hfile' => ?_⟩
    obtain rfl := Option.some.inj hfile'
    exact ⟨hfile, .cons (.spec written_bare) (.cons (.source _) .nil)⟩
  have hmerged : merged arguments (some given) = settings := by decide +kernel
  have hrefused : ¬Refused arguments settings := by
    rintro (⟨hcsv, -⟩ | hsources | hpath | ⟨-, hinput⟩)
    · exact hcsv rfl
    · cases hsources
    · revert hpath
      decide
    · cases hinput
  obtain ⟨hok, -, hgiven⟩ := resolve_by_field hnames
  obtain ⟨-, hforms⟩ := hgiven given rfl
  have hresolve := (hok settings).2 ⟨hmerged.symm, hmerged ▸ hrefused⟩
  obtain ⟨hother, -⟩ := hforms other restatedFile hagain restates_mixedFile
  exact ⟨hread, hnames, hmerged, hrefused, hresolve, hagain, restates_mixedFile,
    hother.trans hresolve⟩

end Cli
end FirmwareTrace
