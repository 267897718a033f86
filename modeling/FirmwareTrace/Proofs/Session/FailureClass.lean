import FirmwareTrace.Proofs.Image.Reading
import FirmwareTrace.Proofs.SymbolCache.Contents
import FirmwareTrace.Session.Basic

/-! # Classes of failures

What a provider build fails with is classed as a failure of a provider, save for what goes
wrong while a symbol cache is read as a stream: a line that is no text, or a directory in
its place.  No decoding fails with one, `failures_classed`.
-/
namespace FirmwareTrace

namespace Except

variable {ε α β : Type} {P Q : ε → Prop}

/-- A computation that fails with nothing but such faults. -/
def FailsOnly (P : ε → Prop) (x : Except ε α) : Prop := ∀ fault, x = .error fault → P fault

theorem failsOnly_ok (a : α) : FailsOnly P (.ok a) := nofun

theorem failsOnly_error_iff {fault : ε} : FailsOnly P (.error fault : Except ε α) ↔ P fault := by
  simp [FailsOnly]

theorem FailsOnly.mono {x : Except ε α} (h : FailsOnly P x) (hPQ : ∀ fault, P fault → Q fault) :
    FailsOnly Q x :=
  fun fault hfault => hPQ fault (h fault hfault)

theorem FailsOnly.bind {x : Except ε α} {f : α → Except ε β} (h : FailsOnly P x)
    (hf : ∀ a, FailsOnly P (f a)) : FailsOnly P (x >>= f) := by
  cases x with
  | error fault => exact failsOnly_error_iff.2 (failsOnly_error_iff.1 h)
  | ok a => exact hf a

theorem FailsOnly.map {x : Except ε α} (h : FailsOnly P x) (f : α → β) :
    FailsOnly P (x.map f) := by
  cases x with
  | error fault => exact failsOnly_error_iff.2 (failsOnly_error_iff.1 h)
  | ok a => exact failsOnly_ok (f a)

theorem failsOnly_mapM {f : α → Except ε β} (h : ∀ a, FailsOnly P (f a)) (xs : List α) :
    FailsOnly P (xs.mapM f) := by
  induction xs with
  | nil => exact failsOnly_ok []
  | cons a xs ih =>
    rw [List.mapM_cons]
    exact (h a).bind fun b => ih.bind fun rest => failsOnly_ok (b :: rest)

end Except

def Failure.IsProvider (failure : Failure) : Prop := failure.isProviderError = true

/-! ## Provider builds -/

namespace SymbolCache

/-- What can be wrong with a line of a symbol cache. -/
def LineFault (failure : Failure) : Prop := failure.IsProvider ∨ failure = .io .notUtf8

theorem lineFault_of_fault? {content : Content} {number : Nat} {failure : Failure}
    (h : content.fault? number = some failure) : LineFault failure := by
  cases content with
  | broken =>
    obtain rfl := Option.some.inj h
    exact .inr rfl
  | malformed record =>
    obtain rfl := Option.some.inj h
    exact .inl rfl
  | blank | defines _ => cases h

theorem failsOnly_build (octets : List UInt8) : Except.FailsOnly LineFault (build octets) := by
  intro failure hfailure
  obtain ⟨_, _, _, _, _, hline⟩ := exists_of_firstFault (build_eq_error_iff.1 hfailure)
  exact lineFault_of_fault? hline

end SymbolCache

namespace Image

theorem failsOnly_regionOf (container : Elf.Container) (sec : Elf.Section) :
    Except.FailsOnly Failure.IsProvider (regionOf container sec) := by
  unfold regionOf
  split
  · exact Except.failsOnly_ok _
  · exact Except.failsOnly_error_iff.2 rfl

theorem failsOnly_readIn (container : Elf.Container) :
    Except.FailsOnly Failure.IsProvider (readIn container) := by
  unfold readIn
  split
  · exact Except.failsOnly_error_iff.2 rfl
  · split
    · exact Except.failsOnly_error_iff.2 rfl
    · refine (failsOnly_regionOf container _).bind fun names => Except.FailsOnly.bind ?_ fun _ =>
        Except.failsOnly_ok _
      exact Except.failsOnly_mapM
        (fun sec : Elf.Section × Nat => (failsOnly_regionOf container sec.1).map _) _

theorem failsOnly_read (bytes : ByteArray) :
    Except.FailsOnly Failure.IsProvider (read bytes) := by
  cases hcontainer : Elf.Container.read? bytes with
  | none =>
    unfold read
    rw [hcontainer]
    exact Except.failsOnly_error_iff.2 rfl
  | some container =>
    rw [read_of_container hcontainer]
    exact failsOnly_readIn container

theorem failsOnly_table (findings : Findings) : Except.FailsOnly Failure.IsProvider findings.table := by
  unfold Findings.table
  split
  · exact Except.failsOnly_error_iff.2 rfl
  · exact Except.failsOnly_ok _

theorem failsOnly_build (bytes : ByteArray) : Except.FailsOnly Failure.IsProvider (build bytes) :=
  (failsOnly_read bytes).bind fun reading => failsOnly_table reading.findings

end Image

namespace SourceFormat

variable (workspace : Workspace) (path : String)

/-- What loading a symbol cache fails with. -/
def CacheFault (failure : Failure) : Prop :=
  SymbolCache.LineFault failure ∨
    failure = .io .isDirectory ∧ ∃ tick, workspace.find path = .ok (.directory tick)

theorem failsOnly_load_csv :
    Except.FailsOnly (CacheFault workspace path) (SourceFormat.csv.load workspace path) := by
  change Except.FailsOnly _ ((SymbolCache.load workspace path).bind _)
  unfold SymbolCache.load
  cases hfind : workspace.find path with
  | error fault => exact Except.failsOnly_error_iff.2 (.inl (.inl rfl))
  | ok node =>
    cases node with
    | directory tick => exact Except.failsOnly_error_iff.2 (.inr ⟨rfl, tick, hfind⟩)
    | file content tick => exact (SymbolCache.failsOnly_build _).mono fun _ => .inl

theorem failsOnly_load_elf :
    Except.FailsOnly Failure.IsProvider (SourceFormat.elf.load workspace path) := by
  change Except.FailsOnly _ ((Image.load workspace path).bind _)
  refine Except.FailsOnly.bind ?_ fun reading => Image.failsOnly_table reading.findings
  unfold Image.load
  split
  · exact Except.failsOnly_error_iff.2 rfl
  · exact Image.failsOnly_read _

end SourceFormat

namespace Session

/-- What adding a source fails with is what loading it fails with. -/
theorem load_of_add {session : Session} {workspace : Workspace} {source : Source}
    {failure : Failure} (h : session.add workspace source = .error failure) :
    session.format.load workspace source.path = .error failure := by
  unfold add at h
  cases hload : session.format.load workspace source.path with
  | error fault =>
    rw [hload] at h
    exact congrArg Except.error (Except.error.inj h)
  | ok table =>
    rw [hload] at h
    cases h

end Session

/-! ## Decoding -/

namespace Decoder

open Channel Decode

variable {Header Literal : Type} (decoder : Decoder Header Literal)

theorem failsOnly_decode (input : Input) (sink : Sink) :
    Except.FailsOnly (¬ ·.IsProvider) (decoder.decode input sink).outcome := by
  unfold decode
  dsimp only
  split
  · exact Except.failsOnly_error_iff.2 Bool.false_ne_true
  · exact Except.failsOnly_ok _

theorem failsOnly_leg (input : Input) (sink : Sink) (items : List Item) :
    Except.FailsOnly (¬ ·.IsProvider) (decoder.leg input sink items).outcome := by
  unfold leg
  dsimp only
  split
  · exact Except.failsOnly_error_iff.2 Bool.false_ne_true
  · exact Except.failsOnly_ok _

theorem failsOnly_followSubscribed (signals : List Signal) (input : Input) (sink : Sink)
    (items : List Item) :
    Except.FailsOnly (¬ ·.IsProvider)
      (decoder.followSubscribed signals input sink items).outcome := by
  induction signals generalizing input sink items with
  | nil => exact decoder.failsOnly_leg input sink items
  | cons signal rest ih =>
    have hleg := decoder.failsOnly_leg input sink items
    unfold followSubscribed
    dsimp only
    split
    · rename_i failure houtcome
      exact Except.failsOnly_error_iff.2 (hleg failure houtcome)
    · exact Except.failsOnly_ok _
    · exact Except.failsOnly_error_iff.2 Bool.false_ne_true
    · exact ih _ _ _

theorem failsOnly_follow (input : Input) (sink : Sink) (refusal : Option WatchFault)
    (signals : List Signal) :
    Except.FailsOnly (¬ ·.IsProvider) (decoder.follow input sink refusal signals).outcome := by
  unfold follow
  split
  · exact Except.failsOnly_error_iff.2 Bool.false_ne_true
  · exact decoder.failsOnly_followSubscribed signals input sink []

end Decoder

/-- Providers fail with failures of their class, unless a symbol cache holds a line that is no
text or is a directory.  Decoding never does. -/
theorem failures_classed {Header Literal : Type} (octets : List UInt8) (bytes : ByteArray)
    (session : Session) (workspace : Workspace) (source : Source)
    (decoder : Decoder Header Literal) (input : Channel.Input) (sink : Channel.Sink)
    (refusal : Option WatchFault) (signals : List Decode.Signal) (failure : Failure) :
    (SymbolCache.build octets = .error failure →
      (failure.isProviderError = true ↔ failure ≠ .io .notUtf8)) ∧
    (Image.build bytes = .error failure → failure.isProviderError = true) ∧
    (session.add workspace source = .error failure →
      (failure.isProviderError = true ↔ ¬(session.format = .csv ∧
        (failure = .io .notUtf8 ∨ failure = .io .isDirectory ∧
          ∃ tick, workspace.find source.path = .ok (.directory tick))))) ∧
    ((decoder.decode input sink).outcome = .error failure ∨
        (decoder.follow input sink refusal signals).outcome = .error failure →
      failure.isProviderError = false) := by
  have hio : ∀ fault, failure = .io fault → ¬failure.isProviderError = true := by
    rintro fault rfl
    exact Bool.false_ne_true
  refine ⟨?_, Image.failsOnly_build bytes failure, ?_, ?_⟩
  · intro hbuild
    have hclass := SymbolCache.failsOnly_build octets failure hbuild
    exact ⟨fun hprovider htext => hio _ htext hprovider, hclass.resolve_right⟩
  · intro hadd
    have hload := Session.load_of_add hadd
    constructor
    · rintro hprovider ⟨-, htext | ⟨hdirectory, -⟩⟩
      · exact hio _ htext hprovider
      · exact hio _ hdirectory hprovider
    · intro hexcluded
      obtain ⟨format, libraries⟩ := session
      cases format with
      | csv =>
        rcases SourceFormat.failsOnly_load_csv workspace source.path failure hload with
          (hclass | htext) | hdirectory
        · exact hclass
        · exact absurd ⟨rfl, .inl htext⟩ hexcluded
        · exact absurd ⟨rfl, .inr hdirectory⟩ hexcluded
      | elf => exact SourceFormat.failsOnly_load_elf workspace source.path failure hload
  · rintro (hdecode | hfollow)
    · exact Bool.eq_false_iff.2 (decoder.failsOnly_decode input sink failure hdecode)
    · exact Bool.eq_false_iff.2
        (decoder.failsOnly_follow input sink refusal signals failure hfollow)

theorem failures_classed_empty_image :
    Image.build .empty = .error (.badContainer .malformed) ∧
      Failure.isProviderError (.badContainer .malformed) = true := by
  have hbuild : Image.build .empty = .error (.badContainer .malformed) := by rfl
  obtain ⟨-, himage, -⟩ := failures_classed [] .empty (.empty .elf) {} ⟨".", 0⟩
    (Session.empty .elf).decoder (.direct ⟨.empty, 0, []⟩) {} none [] (.badContainer .malformed)
  exact ⟨hbuild, himage hbuild⟩

/-- A directory in the place of a symbol cache fails as a stream, and in that of an image as a
provider. -/
theorem directory_as_cache :
    (Session.empty .csv).add {} ⟨".", 0⟩ = .error (.io .isDirectory) ∧
      Failure.isProviderError (.io .isDirectory) = false ∧
      (Session.empty .elf).add {} ⟨".", 0⟩ = .error (.unreadableSource "." .isDirectory) := by
  refine ⟨by rfl, by rfl, by rfl⟩

end FirmwareTrace
