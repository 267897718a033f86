import FirmwareTrace.Cli.Loading
import FirmwareTrace.Proofs.Image.Reading
import FirmwareTrace.Proofs.Libraries.FirstDefinition

/-! # Loading sources in any order

The sources of a configuration are loaded side by side, each alone, and filed once all of
them are there; or they are added to a session one after the other.  Both come to the same
session, and either fails if a source does, `loadInOrder_agrees`.  Sources that are added in
turn fail with the first of them that does, and sources side by side with the one that was
first to.
-/
namespace FirmwareTrace

theorem Except.mapM_eq_error_iff {ε α β : Type} {f : α → Except ε β} {xs : List α} {fault : ε} :
    xs.mapM f = .error fault ↔ ∃ front a back, xs = front ++ a :: back ∧
      f a = .error fault ∧ ∀ earlier ∈ front, ∃ b, f earlier = .ok b := by
  induction xs with
  | nil => simp [pure, Except.pure]
  | cons a xs ih =>
    rw [List.mapM_cons]
    cases ha : f a with
    | error other =>
      constructor
      · intro h
        exact ⟨[], a, xs, rfl, ha.trans (congrArg _ (Except.error.inj h)), nofun⟩
      · rintro ⟨front, b, back, hsplit, hb, hfront⟩
        cases front with
        | nil =>
          obtain ⟨rfl, -⟩ := List.cons.inj hsplit
          exact congrArg _ (Except.error.inj (ha.symm.trans hb))
        | cons c front =>
          obtain ⟨rfl, -⟩ := List.cons.inj hsplit
          obtain ⟨value, hvalue⟩ := hfront a List.mem_cons_self
          cases ha.symm.trans hvalue
    | ok value =>
      have hrest : (Except.ok value >>= fun b => xs.mapM f >>= fun rest => pure (b :: rest))
          = (.error fault : Except ε (List β)) ↔ xs.mapM f = .error fault := by
        cases xs.mapM f <;> simp [bind, Except.bind, pure, Except.pure]
      rw [hrest, ih]
      constructor
      · rintro ⟨front, b, back, rfl, hb, hfront⟩
        exact ⟨a :: front, b, back, rfl, hb, List.forall_mem_cons.2 ⟨⟨value, ha⟩, hfront⟩⟩
      · rintro ⟨front, b, back, hsplit, hb, hfront⟩
        cases front with
        | nil =>
          obtain ⟨rfl, -⟩ := List.cons.inj hsplit
          cases ha.symm.trans hb
        | cons c front =>
          obtain ⟨rfl, rfl⟩ := List.cons.inj hsplit
          exact ⟨front, b, back, rfl, hb, (List.forall_mem_cons.1 hfront).2⟩

theorem findSome?_range_getElem? {α β : Type} (f : α → Option β) (xs : List α) :
    (List.range xs.length).findSome? (fun index => xs[index]?.bind f) = xs.findSome? f := by
  have hall : (List.range xs.length).map (fun index => xs[index]?) = xs.map some :=
    List.ext_getElem (by simp) (by simp)
  calc (List.range xs.length).findSome? (fun index => xs[index]?.bind f)
      = ((List.range xs.length).map fun index => xs[index]?).findSome? (·.bind f) := by
        rw [List.findSome?_map]
        rfl
    _ = xs.findSome? f := by
        rw [hall, List.findSome?_map]
        rfl

open Libraries (Filing)

variable (workspace : Workspace) (format : SourceFormat)

/-- Builds the table of a source with the given content. -/
def SourceFormat.build (content : ByteArray) :
    (format : SourceFormat) → Except Failure (LiteralTable format.Literal)
  | .csv => SymbolCache.build (Bytes.octets content)
  | .elf => Image.build content

/-- Loads a source alone; its table comes with the id that it is filed under. -/
def SourceFormat.filing (source : Source) : Except Failure (Filing format.Literal) :=
  (format.load workspace source.path).map fun table => (source.library, table)

section
variable {workspace format} {source : Source}

theorem SourceFormat.load_eq_ok_iff {path : String} {table : LiteralTable format.Literal} :
    format.load workspace path = .ok table ↔
      ∃ content, workspace.read path = .ok content ∧ format.build content = .ok table := by
  cases format with
  | csv =>
    unfold load SymbolCache.load Workspace.read
    cases workspace.find path with
    | error fault => simp [Except.bind]
    | ok node => cases node <;> simp [Except.bind, build, SymbolCache.build]
  | elf =>
    unfold load Image.load
    cases workspace.read path with
    | error fault => simp [Except.bind]
    | ok content =>
      simp only [Except.ok.injEq, exists_eq_left']
      rfl

theorem SourceFormat.filing_eq_ok_iff {filing : Filing format.Literal} :
    format.filing workspace source = .ok filing ↔
      filing.1 = source.library ∧ format.load workspace source.path = .ok filing.2 := by
  obtain ⟨library, table⟩ := filing
  rw [SourceFormat.filing, Except.map_eq_ok_iff]
  constructor
  · rintro ⟨loaded, hload, heq⟩
    obtain ⟨rfl, rfl⟩ := Prod.mk.inj heq
    exact ⟨rfl, hload⟩
  · rintro ⟨rfl, hload⟩
    exact ⟨table, hload, rfl⟩

theorem SourceFormat.filing_eq_error_iff {failure : Failure} :
    format.filing workspace source = .error failure ↔
      format.load workspace source.path = .error failure := by
  rw [SourceFormat.filing]
  cases format.load workspace source.path <;> simp [Except.map]

end

/-- Adding sources in turn is loading each alone and filing the tables. -/
theorem Session.addAll_eq (libraries : Libraries format.Literal) (sources : List Source) :
    (⟨format, libraries⟩ : Session).addAll workspace sources =
      (sources.mapM (format.filing workspace)).map
        fun filings => ⟨format, libraries.insertAll filings⟩ := by
  induction sources generalizing libraries with
  | nil => rfl
  | cons source sources ih =>
    rw [addAll, List.foldlM_cons, List.mapM_cons, add, SourceFormat.filing]
    dsimp only
    cases format.load workspace source.path with
    | error failure => rfl
    | ok table =>
      refine (ih (libraries.insert source.library table)).trans ?_
      cases sources.mapM (format.filing workspace) with
      | error failure => rfl
      | ok filings => rfl

namespace Cli

/-! ## One source -/

section
variable (source : Source)

theorem source_attempt : (attempt workspace source format).source = source := by
  cases format with
  | csv =>
    unfold attempt attemptSymbolCache
    cases SymbolCache.load workspace source.path <;> rfl
  | elf =>
    unfold attempt attemptImage
    cases Image.load workspace source.path <;> rfl

theorem result_attempt :
    (attempt workspace source format).result = format.load workspace source.path := by
  cases format with
  | csv =>
    unfold attempt attemptSymbolCache SourceFormat.load
    cases SymbolCache.load workspace source.path <;> rfl
  | elf =>
    unfold attempt attemptImage SourceFormat.load
    cases Image.load workspace source.path <;> rfl

end

section
variable {workspace format} {source : Source}

theorem failure?_attempt_eq_some_iff {failed : Source × Failure} :
    (attempt workspace source format).failure? = some failed ↔
      failed.1 = source ∧ format.load workspace source.path = .error failed.2 := by
  obtain ⟨other, failure⟩ := failed
  rw [Attempt.failure?, result_attempt, source_attempt]
  cases format.load workspace source.path <;> simp [eq_comm]

theorem failure?_attempt_eq_none_iff :
    (attempt workspace source format).failure? = none ↔
      ∃ filing, format.filing workspace source = .ok filing := by
  rw [Attempt.failure?, result_attempt, SourceFormat.filing]
  cases format.load workspace source.path <;> simp [Except.map]

theorem table?_attempt {filing : Filing format.Literal}
    (h : format.filing workspace source = .ok filing) :
    (attempt workspace source format).table? = some filing := by
  obtain ⟨hlibrary, hload⟩ := SourceFormat.filing_eq_ok_iff.1 h
  rw [Attempt.table?, result_attempt, source_attempt, hload, ← hlibrary]

/-! ## All sources -/

theorem fileTables_of_mapM {sources : List Source} {filings : List (Filing format.Literal)}
    (h : sources.mapM (format.filing workspace) = .ok filings) :
    fileTables (sources.map fun source => attempt workspace source format)
      = (∅ : Libraries format.Literal).insertAll filings := by
  have htables : (sources.map fun source => attempt workspace source format).filterMap
      Attempt.table? = filings := by
    induction Except.mapM_eq_ok_iff.1 h with
    | nil => rfl
    | cons hfiling hrest ih =>
      rw [List.map_cons, List.filterMap_cons_some (table?_attempt hfiling),
        ih (Except.mapM_eq_ok_iff.2 hrest)]
  rw [fileTables, htables]
  rfl

theorem firstFailure_eq_none_iff {sources : List Source} {order : List Nat}
    (horder : order.Perm (List.range sources.length)) :
    firstFailure (sources.map fun source => attempt workspace source format) order = none ↔
      ∃ filings, sources.mapM (format.filing workspace) = .ok filings := by
  rw [Except.exists_mapM_eq_ok_iff, firstFailure, List.findSome?_eq_none_iff]
  constructor
  · intro h source hmem
    obtain ⟨index, hlt, rfl⟩ := List.getElem_of_mem hmem
    have hnone := h index (horder.mem_iff.2 (List.mem_range.2 hlt))
    rw [List.getElem?_map, List.getElem?_eq_getElem hlt] at hnone
    exact failure?_attempt_eq_none_iff.1 hnone
  · intro h index _
    rw [List.getElem?_map]
    cases hsource : sources[index]? with
    | none => rfl
    | some source => exact failure?_attempt_eq_none_iff.2 (h source (List.mem_of_getElem? hsource))

theorem load_of_firstFailure {sources : List Source} {order : List Nat}
    {failed : Source × Failure}
    (h : firstFailure (sources.map fun source => attempt workspace source format) order
      = some failed) :
    failed.1 ∈ sources ∧ format.load workspace failed.1.path = .error failed.2 := by
  obtain ⟨index, -, hindex⟩ := List.exists_of_findSome?_eq_some h
  rw [List.getElem?_map] at hindex
  obtain ⟨tried, htried, hfailed⟩ := Option.bind_eq_some_iff.1 hindex
  obtain ⟨source, hsource, rfl⟩ := Option.map_eq_some_iff.1 htried
  obtain ⟨rfl, hload⟩ := failure?_attempt_eq_some_iff.1 hfailed
  exact ⟨List.mem_of_getElem? hsource, hload⟩

/-- One after the other, the sources fail with the first that fails alone. -/
theorem firstFailure_range_eq_some_iff {sources : List Source} {failed : Source × Failure} :
    firstFailure (sources.map fun source => attempt workspace source format)
        (List.range sources.length) = some failed ↔
      ∃ front back, sources = front ++ failed.1 :: back ∧
        format.load workspace failed.1.path = .error failed.2 ∧
        ∀ earlier ∈ front, ∃ filing, format.filing workspace earlier = .ok filing := by
  have hrange := findSome?_range_getElem? Attempt.failure?
    (sources.map fun source => attempt workspace source format)
  rw [List.length_map] at hrange
  rw [firstFailure, hrange, List.findSome?_map, List.findSome?_eq_some_iff]
  constructor
  · rintro ⟨front, source, back, rfl, hfailed, hfront⟩
    obtain ⟨rfl, hload⟩ := failure?_attempt_eq_some_iff.1 hfailed
    exact ⟨front, back, rfl, hload,
      fun earlier hmem => failure?_attempt_eq_none_iff.1 (hfront earlier hmem)⟩
  · rintro ⟨front, back, hsplit, hload, hfront⟩
    exact ⟨front, failed.1, back, hsplit, failure?_attempt_eq_some_iff.2 ⟨rfl, hload⟩,
      fun earlier hmem => failure?_attempt_eq_none_iff.2 (hfront earlier hmem)⟩

end

/-- What is reported of a source that cannot be loaded. -/
def loadReport (source : Source) (failure : Failure) : Report :=
  .ofFailure ("Failed to build provider " ++ Text.quoted source.path) failure

/-- A source that cannot be loaded alone, while each before it in the configuration can. -/
def FailsFirst (workspace : Workspace) (config : Config) (source : Source) (failure : Failure) :
    Prop :=
  ∃ front back, config.sources = front ++ source :: back ∧
    config.format.load workspace source.path = .error failure ∧
    ∀ earlier ∈ front, ∃ filing, config.format.filing workspace earlier = .ok filing

section
variable {workspace : Workspace} {config : Config} {order : List Nat}

theorem ofConfig_eq (hconfig : config.validate = .ok ()) :
    Session.ofConfig workspace config =
      (config.sources.mapM (config.format.filing workspace)).map
        fun filings => ⟨config.format, (∅ : Libraries _).insertAll filings⟩ := by
  rw [Session.ofConfig, hconfig]
  exact Session.addAll_eq workspace config.format ∅ config.sources

theorem ofConfig_eq_error_iff (hconfig : config.validate = .ok ()) {failure : Failure} :
    Session.ofConfig workspace config = .error failure ↔
      ∃ source, FailsFirst workspace config source failure := by
  have herror : Session.ofConfig workspace config = .error failure ↔
      config.sources.mapM (config.format.filing workspace) = .error failure := by
    rw [ofConfig_eq hconfig]
    cases config.sources.mapM (config.format.filing workspace) <;> simp [Except.map]
  rw [herror, Except.mapM_eq_error_iff]
  simp only [SourceFormat.filing_eq_error_iff]
  constructor
  · rintro ⟨front, source, back, hfails⟩
    exact ⟨source, front, back, hfails⟩
  · rintro ⟨source, front, back, hfails⟩
    exact ⟨front, source, back, hfails⟩

theorem loadInOrder_of_some {failed : Source × Failure}
    (h : firstFailure (config.sources.map fun source => attempt workspace source config.format)
      order = some failed) :
    loadInOrder workspace config order = .error (loadReport failed.1 failed.2) := by
  rw [loadInOrder, h]
  rfl

theorem loadInOrder_of_none {filings : List (Filing config.format.Literal)}
    (h : firstFailure (config.sources.map fun source => attempt workspace source config.format)
      order = none)
    (hfilings : config.sources.mapM (config.format.filing workspace) = .ok filings) :
    loadInOrder workspace config order =
      .ok ⟨config.format, (∅ : Libraries _).insertAll filings⟩ := by
  rw [loadInOrder, h]
  exact congrArg (fun libraries => Except.ok (⟨config.format, libraries⟩ : Session))
    (fileTables_of_mapM hfilings)

/-- In any order, either all sources can be loaded and are filed, or one that cannot is
reported. -/
theorem loadInOrder_cases (workspace : Workspace) (config : Config)
    (horder : order.Perm (List.range config.sources.length)) :
    (∃ filings, config.sources.mapM (config.format.filing workspace) = .ok filings ∧
        loadInOrder workspace config order =
          .ok ⟨config.format, (∅ : Libraries _).insertAll filings⟩) ∨
      ∃ source ∈ config.sources, ∃ failure,
        config.format.load workspace source.path = .error failure ∧
        loadInOrder workspace config order = .error (loadReport source failure) := by
  cases hfirst : firstFailure
      (config.sources.map fun source => attempt workspace source config.format) order with
  | none =>
    obtain ⟨filings, hfilings⟩ := (firstFailure_eq_none_iff horder).1 hfirst
    exact .inl ⟨filings, hfilings, loadInOrder_of_none hfirst hfilings⟩
  | some failed =>
    obtain ⟨hmem, hload⟩ := load_of_firstFailure hfirst
    exact .inr ⟨failed.1, hmem, failed.2, hload, loadInOrder_of_some hfirst⟩

theorem load_eq_error_iff {report : Report} :
    load workspace config = .error report ↔
      ∃ source failure, FailsFirst workspace config source failure ∧
        report = loadReport source failure := by
  rw [load]
  constructor
  · intro h
    cases hfirst : firstFailure (config.sources.map fun source =>
        attempt workspace source config.format) (List.range config.sources.length) with
    | none =>
      obtain ⟨filings, hfilings⟩ := (firstFailure_eq_none_iff (.refl _)).1 hfirst
      cases (loadInOrder_of_none hfirst hfilings).symm.trans h
    | some failed =>
      exact ⟨failed.1, failed.2, firstFailure_range_eq_some_iff.1 hfirst,
        (Except.error.inj ((loadInOrder_of_some hfirst).symm.trans h)).symm⟩
  · rintro ⟨source, failure, hfails, rfl⟩
    have hfirst : firstFailure (config.sources.map fun source =>
        attempt workspace source config.format) (List.range config.sources.length)
          = some (source, failure) := firstFailure_range_eq_some_iff.2 hfails
    have hfailed := loadInOrder_of_some hfirst
    exact hfailed

end

/-- Whatever the order in which the sources are loaded, they come to the session that adding
them in turn comes to, and fail if that fails. -/
theorem loadInOrder_agrees (workspace : Workspace) (config : Config) (order : List Nat)
    (hconfig : config.validate = .ok ())
    (horder : order.Perm (List.range config.sources.length)) :
    (∀ session, loadInOrder workspace config order = .ok session ↔
      Session.ofConfig workspace config = .ok session) ∧
    (∀ session, Session.ofConfig workspace config = .ok session →
      ∃ filings libraries, session = ⟨config.format, libraries⟩ ∧
        List.Forall₂ (fun source filing => filing.1 = source.library ∧
          config.format.load workspace source.path = .ok filing.2) config.sources filings ∧
        libraries.HoldsFirst filings) ∧
    (∀ built added, loadInOrder workspace config order = .ok built →
      Session.ofConfig workspace config = .ok added →
      ∀ input sink, built.decoder.decode input sink = added.decoder.decode input sink) ∧
    (∀ failure, Session.ofConfig workspace config = .error failure ↔
      ∃ source, FailsFirst workspace config source failure) ∧
    (∀ report, loadInOrder workspace config order = .error report →
      ∃ source ∈ config.sources, ∃ failure,
        config.format.load workspace source.path = .error failure ∧
        report = loadReport source failure) ∧
    ∀ report, load workspace config = .error report ↔
      ∃ source failure, FailsFirst workspace config source failure ∧
        report = loadReport source failure := by
  have hadded : Session.ofConfig workspace config = _ := ofConfig_eq hconfig
  have hsame : ∀ session, loadInOrder workspace config order = .ok session ↔
      Session.ofConfig workspace config = .ok session := by
    intro session
    rcases loadInOrder_cases workspace config horder with
      ⟨filings, hfilings, hbuilt⟩ | ⟨source, hmem, failure, hload, hbuilt⟩
    · rw [hbuilt, hadded, hfilings, Except.map, Except.ok.injEq, Except.ok.injEq]
    · have hnone : ¬∃ filings,
          config.sources.mapM (config.format.filing workspace) = .ok filings := by
        rw [Except.exists_mapM_eq_ok_iff]
        intro hall
        obtain ⟨filing, hfiling⟩ := hall source hmem
        cases hload.symm.trans (SourceFormat.filing_eq_ok_iff.1 hfiling).2
      rw [hbuilt, hadded]
      cases hfilings : config.sources.mapM (config.format.filing workspace) with
      | error failure => simp [Except.map]
      | ok filings => exact absurd ⟨filings, hfilings⟩ hnone
  refine ⟨hsame, ?_, ?_, fun failure => ofConfig_eq_error_iff hconfig, ?_,
    fun report => load_eq_error_iff⟩
  · intro session h
    obtain ⟨filings, hfilings, rfl⟩ := Except.map_eq_ok_iff.1 (hadded.symm.trans h)
    refine ⟨filings, _, rfl, ?_, Libraries.holdsFirst_insertAll filings⟩
    exact (Except.mapM_eq_ok_iff.1 hfilings).imp fun _ _ => SourceFormat.filing_eq_ok_iff.1
  · intro built added hbuilt h input sink
    rw [Except.ok.inj (((hsame built).1 hbuilt).symm.trans h)]
  · intro report h
    rcases loadInOrder_cases workspace config horder with
      ⟨filings, hfilings, hbuilt⟩ | ⟨source, hmem, failure, hload, hbuilt⟩
    · cases hbuilt.symm.trans h
    · exact ⟨source, hmem, failure, hload, Except.error.inj (h.symm.trans hbuilt)⟩

/-- Two sources that are both missing: whichever is tried first is reported, and sources in
turn fail with the first of the configuration. -/
theorem loadInOrder_agrees_missing :
    let config : Config := ⟨.csv, [⟨"first.csv", 0⟩, ⟨"second.csv", 0⟩], false⟩
    let failure (path : String) : Failure := .unreadableSource path .notFound
    config.validate = .ok () ∧ [1, 0].Perm (List.range config.sources.length) ∧
      loadInOrder {} config [1, 0]
        = .error (loadReport ⟨"second.csv", 0⟩ (failure "second.csv")) ∧
      load {} config = .error (loadReport ⟨"first.csv", 0⟩ (failure "first.csv")) ∧
      Session.ofConfig {} config = .error (failure "first.csv") := by
  intro config failure
  have hvalid : config.validate = .ok () := by decide
  have horder : [1, 0].Perm (List.range config.sources.length) := by decide
  obtain ⟨-, -, -, hadded, -, hload⟩ := loadInOrder_agrees {} config [1, 0] hvalid horder
  have hfirst : FailsFirst {} config ⟨"first.csv", 0⟩ (failure "first.csv") :=
    ⟨[], [⟨"second.csv", 0⟩], rfl, rfl, nofun⟩
  exact ⟨hvalid, horder, rfl, (hload _).2 ⟨_, _, hfirst, rfl⟩, (hadded _).2 ⟨_, hfirst⟩⟩

end Cli
end FirmwareTrace
