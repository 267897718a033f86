import FirmwareTrace.Cli.Run
import FirmwareTrace.Proofs.Session.LoadOrder
import FirmwareTrace.Proofs.Workspace.Storing

/-! # What a run leaves behind

A run that cannot resolve its settings or load its sources, or that has no input to decode,
leaves every file as it is.  Any other run changes no file but its output, and if it ends
well the output holds what decoding the input with the configured sources comes to,
`run_changes_output_only`.
-/
namespace FirmwareTrace

theorem Except.mapM_of_mem {ε α β : Type} {f g : α → Except ε β} {xs : List α} {ys : List β}
    (hfg : ∀ a ∈ xs, ∀ b, f a = .ok b → g a = .ok b) (h : xs.mapM f = .ok ys) :
    xs.mapM g = .ok ys := by
  rw [mapM_eq_ok_iff] at h ⊢
  induction h with
  | nil => exact .nil
  | cons hhead _ ih =>
    exact .cons (hfg _ List.mem_cons_self _ hhead)
      (ih fun a ha => hfg a (List.mem_cons_of_mem _ ha))

/-! ## Files that were left alone -/

/-- A session that was built is built again where all its sources are as before. -/
theorem Session.ofConfig_of_read {workspace later : Workspace} {config : Config}
    {session : Session} (hconfig : config.validate = .ok ())
    (hread : ∀ source ∈ config.sources, ∀ content,
      workspace.read source.path = .ok content → later.read source.path = .ok content)
    (h : ofConfig workspace config = .ok session) : ofConfig later config = .ok session := by
  rw [Cli.ofConfig_eq hconfig] at h ⊢
  obtain ⟨filings, hfilings, rfl⟩ := Except.map_eq_ok_iff.1 h
  refine Except.map_eq_ok_iff.2 ⟨filings, Except.mapM_of_mem ?_ hfilings, rfl⟩
  intro source hmem filing hfiling
  obtain ⟨hlibrary, htable⟩ := SourceFormat.filing_eq_ok_iff.1 hfiling
  obtain ⟨content, hcontent, hbuild⟩ := SourceFormat.load_eq_ok_iff.1 htable
  exact SourceFormat.filing_eq_ok_iff.2
    ⟨hlibrary, SourceFormat.load_eq_ok_iff.2 ⟨content, hread source hmem content hcontent, hbuild⟩⟩

/-- What decoding an input with the sources of a configuration comes to: the session that is
built and the text that is written. -/
def Session.Decodes (workspace : Workspace) (config : Config) (input : String) (session : Session)
    (text : ByteArray) : Prop :=
  ofConfig workspace config = .ok session ∧
    let run := session.runFile workspace input {} false []
    (∃ stats, run.outcome = .ok stats) ∧ run.sink.written = text

theorem Session.runFile_of_openInput {workspace later : Workspace} {session : Session}
    {input : String} {sink : Channel.Sink} {signals : List Decode.Signal} {stats : Decode.Stats}
    (hopen : ∀ stream, later.openInput input = .ok stream → workspace.openInput input = .ok stream)
    (h : (session.runFile later input sink false signals).outcome = .ok stats) :
    session.runFile workspace input sink false []
      = session.runFile later input sink false signals := by
  cases hlater : later.openInput input with
  | error fault =>
    rw [runFile, hlater] at h
    cases h
  | ok stream =>
    rw [runFile, runFile, hlater, hopen stream hlater]
    rfl

/-- An input is decoded alike where it is left alone with all the sources. -/
theorem Session.Decodes.of_alikeBut {before after : Workspace} {config : Config}
    {input output : String} {session : Session} {text : ByteArray}
    (h : Decodes before config input session text) (hconfig : config.validate = .ok ())
    (halike : Workspace.AlikeBut output before after) (hinput : ¬before.SamePlace input output)
    (hsources : ∀ source ∈ config.sources, ¬before.SamePlace source.path output) :
    Decodes after config input session text := by
  obtain ⟨hsession, ⟨stats, hstats⟩, htext⟩ := h
  have hrun : session.runFile after input {} false [] = session.runFile before input {} false [] :=
    runFile_of_openInput (fun _ => (halike.openInput_iff hinput).2) hstats
  refine ⟨ofConfig_of_read hconfig ?_ hsession, ⟨stats, ?_⟩, ?_⟩
  · exact fun source hmem content => (halike.read_iff (hsources source hmem)).2
  · rw [hrun]
    exact hstats
  · exact (congrArg (fun run => run.sink.written) hrun).trans htext

namespace Cli

variable {workspace : Workspace} {arguments : Arguments} {settings : Settings}
  {session : Session} {signals : List Decode.Signal} {input output : String} {place : Place}

/-! ## The steps of a run -/

/-- Settings that a run is made with were merged and passed the check. -/
theorem Settings.merge_of_resolve (h : Settings.resolve workspace arguments = .ok settings) :
    Settings.merge workspace arguments = .ok settings ∧ settings.config.validate = .ok () := by
  unfold resolve at h
  obtain ⟨merged, hmerge, hcheck⟩ := Except.bind_eq_ok_iff.1 h
  unfold check at hcheck
  split at hcheck
  · cases hcheck
  · next hvalid =>
    split at hcheck
    · cases hcheck
    · obtain rfl := Except.ok.inj hcheck
      exact ⟨hmerge, hvalid⟩

theorem ofConfig_of_load {config : Config} (hconfig : config.validate = .ok ())
    (h : load workspace config = .ok session) :
    Session.ofConfig workspace config = .ok session := by
  rcases loadInOrder_cases workspace config (.refl _) with
    ⟨filings, hfilings, hbuilt⟩ | ⟨_, _, _, _, hbuilt⟩
  · rw [ofConfig_eq hconfig]
    exact Except.map_eq_ok_iff.2 ⟨filings, hfilings, Except.ok.inj (hbuilt.symm.trans h)⟩
  · cases hbuilt.symm.trans h

theorem load_ne_ok {config : Config} {source : Source} {failure : Failure}
    (hmem : source ∈ config.sources)
    (hfailure : config.format.load workspace source.path = .error failure) (session : Session) :
    load workspace config ≠ .ok session := by
  intro h
  rcases loadInOrder_cases workspace config (.refl _) with
    ⟨filings, hfilings, -⟩ | ⟨_, _, _, _, hbuilt⟩
  · obtain ⟨filing, hfiling⟩ := Except.exists_mapM_eq_ok_iff.1 ⟨filings, hfilings⟩ source hmem
    cases hfailure.symm.trans (SourceFormat.filing_eq_ok_iff.1 hfiling).2
  · cases hbuilt.symm.trans h

/-! ## Decoding -/

theorem workspace_decodeInput_of_none (houtput : settings.output = none) :
    (decodeInput workspace session settings signals input).workspace = workspace := by
  rw [decodeInput, houtput]
  rfl

theorem decodeInput_of_not_creatable {fault : IoFault} (houtput : settings.output = some output)
    (h : workspace.creatable output = .error fault) :
    (decodeInput workspace session settings signals input).workspace = workspace ∧
      (decodeInput workspace session settings signals input).standing ≠ .ended := by
  rw [decodeInput, houtput, openOutput, createOutput, h]
  exact ⟨rfl, nofun⟩

variable (session signals input) in
theorem decodeInput_of_creatable (houtput : settings.output = some output)
    (h : workspace.creatable output = .ok place) :
    let outcome := decodeInput workspace session settings signals input
    let created := workspace.store place .empty
    let run := session.runFile created input {} settings.config.follow signals
    outcome.output = .empty ∧ outcome.workspace = created.store place run.sink.written ∧
      (outcome.standing = .ended →
        settings.config.follow = false ∧ ∃ stats, run.outcome = .ok stats) := by
  have hopened : openOutput workspace settings.output
      = .ok (some place, workspace.store place .empty) := by
    rw [houtput, openOutput, createOutput, h]
    rfl
  rw [decodeInput, hopened]
  refine ⟨rfl, rfl, fun hended => ?_⟩
  dsimp only at hended
  split at hended
  · cases hended
  · next stats hstats =>
    split at hended
    · cases hended
    · next hfollow => exact ⟨Bool.eq_false_iff.2 hfollow, stats, hstats⟩

theorem alikeBut_decodeInput (houtput : settings.output = some output) :
    Workspace.AlikeBut output workspace
      (decodeInput workspace session settings signals input).workspace := by
  cases hcreatable : workspace.creatable output with
  | error fault =>
    rw [(decodeInput_of_not_creatable houtput hcreatable).1]
    exact .refl output workspace
  | ok place =>
    obtain ⟨-, hworkspace, -⟩ := decodeInput_of_creatable session signals input houtput hcreatable
    obtain ⟨hlocate, hplace⟩ := Workspace.creatable_eq_ok hcreatable
    have hcreated : Workspace.AlikeBut output workspace (workspace.store place .empty) :=
      hplace.alikeBut_store hlocate
    -- Stored twice: empty when it is created, and with its text when decoding is over.
    rw [hworkspace]
    exact hcreated.trans (hplace.store.alikeBut_store (hcreated.locate_iff.2 hlocate))

/-- Once decoding has ended, the output holds what the input decodes to. -/
theorem decodes_of_ended (houtput : settings.output = some output)
    (hsession : Session.ofConfig workspace settings.config = .ok session)
    (hinput : ¬workspace.SamePlace input output)
    (hended : (decodeInput workspace session settings signals input).standing = .ended) :
    let outcome := decodeInput workspace session settings signals input
    ∃ text, Session.Decodes workspace settings.config input session text ∧
      outcome.workspace.read output = .ok text ∧ outcome.output = .empty := by
  cases hcreatable : workspace.creatable output with
  | error fault => exact absurd hended (decodeInput_of_not_creatable houtput hcreatable).2
  | ok place =>
    obtain ⟨hempty, hworkspace, hrun⟩ :=
      decodeInput_of_creatable session signals input houtput hcreatable
    obtain ⟨hfollow, stats, hstats⟩ := hrun hended
    obtain ⟨hlocate, hplace⟩ := Workspace.creatable_eq_ok hcreatable
    have hcreated : Workspace.AlikeBut output workspace (workspace.store place .empty) :=
      hplace.alikeBut_store hlocate
    rw [hfollow] at hstats hworkspace
    -- The output is created before the input is opened, which is another file.
    have hsame := Session.runFile_of_openInput
      (fun _ => (hcreated.openInput_iff hinput).1) hstats
    rw [← hsame] at hstats hworkspace
    refine ⟨_, ⟨hsession, ⟨stats, hstats⟩, rfl⟩, ?_, hempty⟩
    rw [hworkspace]
    exact hplace.store.read_store (hcreated.locate_iff.2 hlocate)

/-! ## Whole runs -/

theorem workspace_perform_of_resolve
    (h : ∀ settings, Settings.resolve workspace arguments ≠ .ok settings) :
    (perform workspace arguments signals).workspace = workspace := by
  rw [perform]
  cases hresolve : Settings.resolve workspace arguments with
  | error report => rfl
  | ok settings => exact absurd hresolve (h settings)

section
variable (h : Settings.resolve workspace arguments = .ok settings)
include h

/-- A run whose sources do not load changes nothing, and one whose sources do comes to what
decoding its input comes to, after the dump. -/
theorem perform_cases (signals : List Decode.Signal) :
    let outcome := perform workspace arguments signals
    (outcome.workspace = workspace ∧ outcome.standing ≠ .ended) ∨
      ∃ session, load workspace settings.config = .ok session ∧
        let decoded := decodeIfGiven workspace session settings arguments.dump signals
        outcome.workspace = decoded.workspace ∧ outcome.standing = decoded.standing ∧
        outcome.output =
          (if arguments.dump then (dumpText session).toUTF8 else .empty) ++ decoded.output := by
  rw [perform, h]
  dsimp only
  cases hload : load workspace settings.config with
  | error report => exact .inl ⟨rfl, nofun⟩
  | ok session => exact .inr ⟨session, rfl, rfl, rfl, rfl⟩

theorem workspace_perform_of_source {source : Source} {failure : Failure}
    (hmem : source ∈ settings.config.sources)
    (hfailure : settings.config.format.load workspace source.path = .error failure) :
    (perform workspace arguments signals).workspace = workspace := by
  rcases perform_cases h signals with ⟨hsame, -⟩ | ⟨session, hload, -⟩
  · exact hsame
  · exact absurd hload (load_ne_ok hmem hfailure session)

theorem workspace_perform_of_no_input (hinput : settings.input = none) :
    (perform workspace arguments signals).workspace = workspace := by
  rcases perform_cases h signals with ⟨hsame, -⟩ | ⟨session, -, hdecoded, -⟩
  · exact hsame
  · rw [hdecoded, decodeIfGiven, hinput]

theorem workspace_perform_of_no_output (houtput : settings.output = none) :
    (perform workspace arguments signals).workspace = workspace := by
  rcases perform_cases h signals with ⟨hsame, -⟩ | ⟨session, -, hdecoded, -⟩
  · exact hsame
  · rw [hdecoded, decodeIfGiven]
    split
    · exact workspace_decodeInput_of_none houtput
    · rfl

variable (houtput : settings.output = some output)
include houtput

theorem alikeBut_perform :
    Workspace.AlikeBut output workspace (perform workspace arguments signals).workspace := by
  rcases perform_cases h signals with ⟨hsame, -⟩ | ⟨session, -, hdecoded, -⟩
  · rw [hsame]
    exact .refl output workspace
  · rw [hdecoded, decodeIfGiven]
    split
    · exact alikeBut_decodeInput houtput
    · exact .refl output workspace

theorem decodes_of_perform (hinput : settings.input = some input)
    (hpath : ¬workspace.SamePlace input output)
    (hended : (perform workspace arguments signals).standing = .ended) :
    let outcome := perform workspace arguments signals
    ∃ session text, Session.Decodes workspace settings.config input session text ∧
      outcome.workspace.read output = .ok text ∧
      outcome.output = if arguments.dump then (dumpText session).toUTF8 else .empty := by
  rcases perform_cases h signals with
    ⟨-, hfailed⟩ | ⟨session, hload, hworkspace, hstanding, hprinted⟩
  · exact absurd hended hfailed
  · rw [decodeIfGiven, hinput] at hworkspace hstanding hprinted
    have hsession := ofConfig_of_load (Settings.merge_of_resolve h).2 hload
    obtain ⟨text, htext, hread, hempty⟩ :=
      decodes_of_ended houtput hsession hpath (hstanding.symm.trans hended)
    exact ⟨session, text, htext, by rw [hworkspace]; exact hread,
      by rw [hprinted, hempty, ByteArray.append_empty]⟩

end

theorem status?_eq_zero_iff {standing : Standing} :
    standing.status? = some 0 ↔ standing = .ended := by
  cases standing <;> simp [Standing.status?]

/-- A run that is misused, that cannot resolve its settings or load its sources, or that decodes
no input, changes no file.  Any other run changes none but its output.  If it ends well, the
output holds what the input decodes to, and nothing is printed but the dump.  The input decodes
to the same after the run, unless the output is also a source. -/
theorem run_changes_output_only (workspace : Workspace) (arguments : List String)
    (signals : List Decode.Signal) :
    let result := run workspace arguments signals
    ((∀ parsed, read {} arguments ≠ .run parsed) → result.workspace = workspace) ∧
    ∀ parsed, read {} arguments = .run parsed →
      ((∀ settings, Settings.resolve workspace parsed ≠ .ok settings) →
        result.workspace = workspace) ∧
      ∀ settings, Settings.resolve workspace parsed = .ok settings →
        ((∃ source ∈ settings.config.sources, ∃ failure,
            settings.config.format.load workspace source.path = .error failure) →
          result.workspace = workspace) ∧
        (settings.input = none → result.workspace = workspace) ∧
        (settings.output = none → result.workspace = workspace) ∧
        ∀ output, settings.output = some output →
          Workspace.AlikeBut output workspace result.workspace ∧
          ∀ input, settings.input = some input → result.status = some 0 →
            ¬workspace.SamePlace input output →
            ∃ session text, Session.Decodes workspace settings.config input session text ∧
              result.workspace.read output = .ok text ∧
              result.output = (if parsed.dump then (dumpText session).toUTF8 else .empty) ∧
              ((∀ source ∈ settings.config.sources, ¬workspace.SamePlace source.path output) →
                Session.Decodes result.workspace settings.config input session text) := by
  intro result
  refine ⟨fun hmisread => ?_, fun parsed hread => ?_⟩
  · show (run workspace arguments signals).workspace = workspace
    unfold run
    split
    · rfl
    · rfl
    · rfl
    · next parsed hread => exact absurd hread (hmisread parsed)
  have hresult : result = run workspace arguments signals := rfl
  rw [run, hread] at hresult
  rw [hresult]
  refine ⟨workspace_perform_of_resolve, fun settings h => ⟨?_, workspace_perform_of_no_input h,
    workspace_perform_of_no_output h, fun output houtput => ⟨alikeBut_perform h houtput, ?_⟩⟩⟩
  · rintro ⟨source, hmem, failure, hfailure⟩
    exact workspace_perform_of_source h hmem hfailure
  · intro input hinput hstatus hpath
    obtain ⟨session, text, htext, hwritten, hprinted⟩ :=
      decodes_of_perform h houtput hinput hpath (status?_eq_zero_iff.1 hstatus)
    obtain ⟨-, hconfig⟩ := Settings.merge_of_resolve h
    exact ⟨session, text, htext, hwritten, hprinted,
      htext.of_alikeBut hconfig (alikeBut_perform h houtput) hpath⟩

/-- A symbol cache of one literal, and a trace of one record of it. -/
def idleWorkspace : Workspace where
  nodes :=
    [(⟨.working 0, ["idle.csv"]⟩, .file "1,3,idle.c,main,INFO,idle,,,,".toUTF8 0),
      (⟨.working 0, ["t.bin"]⟩, .file ⟨(Spt.format.encode (.pack 1 3 1 0 false 0 0 0 7)
        ++ Bytes.toLittleEndian 4 0).toArray⟩ 0)]

/-- Runs that are misused, without sources, with one that is missing and without an input change
nothing, and one that decodes the trace writes a line to its output. -/
theorem run_changes_output_only_idle :
    let arguments := ["--csv", "idle.csv:0", "-i", "t.bin", "-o", "out.txt"]
    let config : Config := ⟨.csv, [⟨"idle.csv", 0⟩], false⟩
    let result := run idleWorkspace arguments []
    (run idleWorkspace ["out.txt"] []).workspace = idleWorkspace ∧
    (run idleWorkspace ["-i", "t.bin", "-o", "out.txt"] []).workspace = idleWorkspace ∧
    (run idleWorkspace ["--csv", "none.csv:0", "-i", "t.bin", "-o", "out.txt"] []).workspace
      = idleWorkspace ∧
    (run idleWorkspace ["--csv", "idle.csv:0", "-o", "out.txt", "--dump-providers"] []).workspace
      = idleWorkspace ∧
    result.status = some 0 ∧ Workspace.AlikeBut "out.txt" idleWorkspace result.workspace ∧
    ∃ session, Session.Decodes idleWorkspace config "t.bin" session
        "7: 0 0,0 idle.c(3): INFO idle\n".toUTF8 ∧
      result.workspace.read "out.txt" = .ok "7: 0 0,0 idle.c(3): INFO idle\n".toUTF8 ∧
      result.output = .empty ∧
      Session.Decodes result.workspace config "t.bin" session
        "7: 0 0,0 idle.c(3): INFO idle\n".toUTF8 := by
  intro arguments config result
  have hstatus : result.status = some 0 := by decide +kernel
  have hwritten : result.workspace.read "out.txt"
      = .ok "7: 0 0,0 idle.c(3): INFO idle\n".toUTF8 := by decide +kernel
  have hinput : ¬idleWorkspace.SamePlace "t.bin" "out.txt" :=
    Workspace.not_samePlace rfl rfl (by decide)
  have hsources : ∀ source ∈ config.sources, ¬idleWorkspace.SamePlace source.path "out.txt" :=
    List.forall_mem_singleton.2 (Workspace.not_samePlace rfl rfl (by decide))
  obtain ⟨hmisused, -⟩ := run_changes_output_only idleWorkspace ["out.txt"] []
  obtain ⟨-, hfirst⟩ := run_changes_output_only idleWorkspace ["-i", "t.bin", "-o", "out.txt"] []
  obtain ⟨hunresolved, -⟩ := hfirst _ rfl
  obtain ⟨-, hsecond⟩ := run_changes_output_only idleWorkspace
    ["--csv", "none.csv:0", "-i", "t.bin", "-o", "out.txt"] []
  obtain ⟨-, hunloaded⟩ := hsecond _ rfl
  obtain ⟨hmissing, -⟩ := hunloaded _ rfl
  obtain ⟨-, hthird⟩ := run_changes_output_only idleWorkspace
    ["--csv", "idle.csv:0", "-o", "out.txt", "--dump-providers"] []
  obtain ⟨-, hdumped⟩ := hthird _ rfl
  obtain ⟨-, hidle, -⟩ := hdumped _ rfl
  obtain ⟨-, hlast⟩ := run_changes_output_only idleWorkspace arguments []
  obtain ⟨-, hdecoded⟩ := hlast _ rfl
  obtain ⟨-, -, -, hout⟩ := hdecoded _ rfl
  obtain ⟨halike, hends⟩ := hout "out.txt" rfl
  obtain ⟨session, text, hbefore, hread, hprinted, hafter⟩ := hends "t.bin" rfl hstatus hinput
  obtain rfl := Except.ok.inj (hread.symm.trans hwritten)
  exact ⟨hmisused nofun, hunresolved nofun, hmissing ⟨_, List.mem_cons_self, _, rfl⟩, hidle rfl,
    hstatus, halike, session, hbefore, hread, hprinted, hafter hsources⟩

end Cli
end FirmwareTrace
