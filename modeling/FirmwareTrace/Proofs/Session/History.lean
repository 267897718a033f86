import FirmwareTrace.Proofs.Session.LoadOrder
import FirmwareTrace.Proofs.SymbolCache.RoundTrip
import FirmwareTrace.Session.Request

/-! # The history of a session

A session is asked for one thing after the other, among files that may change from call to
call.  Its libraries are always the tables of the sources that could be loaded, each built
alone and filed in the order of the calls; of a source that fails nothing is left, however
much of it was read.  So every call is answered as by a new session that was only given the
loaded sources, `replay_merges_loaded`.
-/
namespace FirmwareTrace

open Libraries (Filing)

/-- The definitions that are read from a source in front of what it fails with. -/
def SourceFormat.BreaksOff (workspace : Workspace) (path : String) :
    (format : SourceFormat) → List (RecordKey × format.Literal) → Failure → Prop
  | .csv, found, failure => ∃ entries,
      SymbolCache.load workspace path = .ok ⟨entries, some failure⟩ ∧
      found = entries.map fun e => (e.literal.key, e.literal)
  | .elf, found, failure => ∃ reading fault, Image.load workspace path = .ok reading ∧
      reading.findings.fault = some fault ∧ failure = .badContainer fault ∧
      found = reading.findings.found.filterMap Image.Finding.definition?

theorem SourceFormat.BreaksOff.load_eq {workspace : Workspace} {path : String}
    {format : SourceFormat} {found : List (RecordKey × format.Literal)} {failure : Failure}
    (h : format.BreaksOff workspace path found failure) :
    format.load workspace path = .error failure := by
  cases format with
  | csv =>
    obtain ⟨entries, hload, -⟩ := h
    rw [load, hload]
    rfl
  | elf =>
    obtain ⟨reading, fault, hload, hfault, rfl, -⟩ := h
    have htable : reading.findings.table = .error (.badContainer fault) := by
      rw [Image.Findings.table, hfault]
    rw [load, hload]
    exact htable

theorem Libraries.insertAll_append {Literal : Type} (libraries : Libraries Literal)
    (front back : List (Filing Literal)) :
    libraries.insertAll (front ++ back) = (libraries.insertAll front).insertAll back :=
  List.foldl_append

namespace Session

/-- A request and the files that are there when it is made. -/
structure Call where
  workspace : Workspace
  request : Request

def Call.answered (session : Session) (call : Call) : Answer × Session :=
  session.answer call.workspace call.request

/-- Answers calls in order. -/
def replay (session : Session) : List Call → List Answer × Session
  | [] => ([], session)
  | call :: rest =>
    let answered := call.answered session
    let others := replay answered.2 rest
    (answered.1 :: others.1, others.2)

/-- Requests among files that stay as they are. -/
theorem answerAll_eq_replay (workspace : Workspace) (session : Session)
    (requests : List Request) :
    session.answerAll workspace requests = session.replay (requests.map (Call.mk workspace)) := by
  induction requests generalizing session with
  | nil => rfl
  | cons request rest ih =>
    rw [answerAll, ih, List.map_cons, replay]
    rfl

/-- Whether a call adds a source that can be loaded. -/
def Call.loads (format : SourceFormat) (call : Call) : Bool :=
  match call.request with
  | .add source => (format.load call.workspace source.path).isOk
  | _ => false

/-- The table that a call files: that of its source, built alone. -/
def Call.filing? (format : SourceFormat) (call : Call) : Option (Filing format.Literal) :=
  match call.request with
  | .add source => (format.filing call.workspace source).toOption
  | _ => none

section
variable {format : SourceFormat} {call : Call}

theorem Call.filing?_eq_some_iff {filing : Filing format.Literal} :
    call.filing? format = some filing ↔ ∃ source, call.request = .add source ∧
      filing.1 = source.library ∧
      format.load call.workspace source.path = .ok filing.2 := by
  obtain ⟨workspace, request⟩ := call
  cases request with
  | add source =>
    have hfiling : Call.filing? format ⟨workspace, .add source⟩ = some filing ↔
        format.filing workspace source = .ok filing := by
      change (format.filing workspace source).toOption = some filing ↔ _
      cases format.filing workspace source <;> simp [Except.toOption]
    rw [hfiling, SourceFormat.filing_eq_ok_iff]
    simp
  | _ => simp [filing?]

theorem Call.isSome_filing? : (call.filing? format).isSome = call.loads format := by
  obtain ⟨workspace, request⟩ := call
  cases request with
  | add source =>
    change (format.filing workspace source).toOption.isSome
      = (format.load workspace source.path).isOk
    rw [SourceFormat.filing]
    cases format.load workspace source.path <;> rfl
  | _ => rfl

/-- Every call that loads a source files one table. -/
theorem forall₂_filings (calls : List Call) :
    List.Forall₂ (fun call filing => call.filing? format = some filing)
      (calls.filter fun call => call.loads format) (calls.filterMap (Call.filing? format)) := by
  induction calls with
  | nil => exact .nil
  | cons call rest ih =>
    cases hfiling : call.filing? format with
    | none =>
      have hloads : call.loads format = false := by rw [← Call.isSome_filing?, hfiling]; rfl
      rw [List.filterMap_cons_none hfiling, List.filter_cons_of_neg (by simp [hloads])]
      exact ih
    | some filing =>
      have hloads : call.loads format = true := by rw [← Call.isSome_filing?, hfiling]; rfl
      rw [List.filterMap_cons_some hfiling, List.filter_cons_of_pos (by simp [hloads])]
      exact .cons hfiling ih

theorem filterMap_filing?_filter (calls : List Call) :
    (calls.filter fun call => call.loads format).filterMap (Call.filing? format) =
      calls.filterMap (Call.filing? format) := by
  rw [List.filterMap_filter]
  refine List.filterMap_congr fun call _ => ?_
  cases hfiling : call.filing? format <;> simp [← Call.isSome_filing?, hfiling]

end

/-! ## One call -/

theorem answer_add_of_error {session : Session} {workspace : Workspace} {source : Source}
    {failure : Failure} (h : session.format.load workspace source.path = .error failure) :
    session.answer workspace (.add source) = (.refused failure, session) := by
  have hadd : session.add workspace source = .error failure := by rw [add, h]
  rw [answer, hadd]

/-- A call files its table if it has one, and changes nothing else. -/
theorem snd_answered (format : SourceFormat) (libraries : Libraries format.Literal) (call : Call) :
    (call.answered ⟨format, libraries⟩).2 =
      ⟨format, libraries.insertAll (call.filing? format).toList⟩ := by
  obtain ⟨workspace, request⟩ := call
  cases request with
  | add source =>
    cases hload : format.load workspace source.path with
    | error failure =>
      have hfiling : Call.filing? format ⟨workspace, .add source⟩ = none := by
        simp [Call.filing?, SourceFormat.filing, hload, Except.map, Except.toOption]
      rw [Call.answered, answer_add_of_error hload, hfiling]
      rfl
    | ok table =>
      have hadd : (⟨format, libraries⟩ : Session).add workspace source =
          .ok ⟨format, libraries.insert source.library table⟩ := by
        rw [add, hload]
      have hfiling : Call.filing? format ⟨workspace, .add source⟩ = some (source.library, table) :=
        Call.filing?_eq_some_iff.2 ⟨source, rfl, rfl, hload⟩
      rw [Call.answered, answer, hadd, hfiling]
      rfl
  | _ => rfl

/-! ## All calls -/

theorem replay_append (session : Session) (front back : List Call) :
    session.replay (front ++ back) =
      ((session.replay front).1 ++ ((session.replay front).2.replay back).1,
        ((session.replay front).2.replay back).2) := by
  induction front generalizing session with
  | nil => rfl
  | cons call front ih =>
    rw [List.cons_append, replay, ih]
    rfl

theorem length_fst_replay (session : Session) (calls : List Call) :
    (session.replay calls).1.length = calls.length := by
  induction calls generalizing session with
  | nil => rfl
  | cons call rest ih => exact congrArg Nat.succ (ih _)

/-- The tables of the loaded sources are filed in the order of the calls. -/
theorem snd_replay (format : SourceFormat) (libraries : Libraries format.Literal)
    (calls : List Call) :
    ((⟨format, libraries⟩ : Session).replay calls).2 =
      ⟨format, libraries.insertAll (calls.filterMap (Call.filing? format))⟩ := by
  induction calls generalizing libraries with
  | nil => rfl
  | cons call rest ih =>
    rw [replay]
    dsimp only
    rw [snd_answered, ih, ← Libraries.insertAll_append]
    cases hfiling : call.filing? format with
    | none => rw [List.filterMap_cons_none hfiling]; rfl
    | some filing => rw [List.filterMap_cons_some hfiling]; rfl

/-- What was not loaded may as well not have been asked. -/
theorem snd_replay_filter (format : SourceFormat) (calls : List Call) :
    ((empty format).replay (calls.filter fun call => call.loads format)).2 =
      ((empty format).replay calls).2 := by
  rw [empty, snd_replay, snd_replay, filterMap_filing?_filter]

/-- After any calls, a session holds the tables of the loaded sources, the first definition of
a key first.  It answers as if it had been asked for nothing else. -/
theorem replay_merges_loaded (format : SourceFormat) (calls : List Call) :
    let session := ((empty format).replay calls).2
    let loaded := calls.filter fun call => call.loads format
    (∀ workspace source failure, format.load workspace source.path = .error failure →
      session.answer workspace (.add source) = (.refused failure, session)) ∧
    (∀ workspace source found failure, format.BreaksOff workspace source.path found failure →
      session.answer workspace (.add source) = (.refused failure, session)) ∧
    (∀ workspace request, (∀ source, request ≠ .add source) →
      (session.answer workspace request).2 = session) ∧
    (∃ filings, session = ⟨format, (∅ : Libraries format.Literal).insertAll filings⟩ ∧
      List.Forall₂ (fun call filing => ∃ source, call.request = .add source ∧
        filing.1 = source.library ∧
        format.load call.workspace source.path = .ok filing.2) loaded filings ∧
      ((∅ : Libraries format.Literal).insertAll filings).HoldsFirst filings) ∧
    ((empty format).replay loaded).2 = session ∧
    (∀ input sink, ((empty format).replay loaded).2.decoder.decode input sink =
      session.decoder.decode input sink) ∧
    ∀ front call back, calls = front ++ call :: back →
      ((empty format).replay calls).1[front.length]? =
        some (call.answered ((empty format).replay
          (front.filter fun earlier => earlier.loads format)).2).1 := by
  intro session loaded
  have hsession : session = ⟨format, (∅ : Libraries format.Literal).insertAll
      (calls.filterMap (Call.filing? format))⟩ := snd_replay format ∅ calls
  have hfresh : ((empty format).replay loaded).2 = session := snd_replay_filter format calls
  have hrefused : ∀ workspace source failure,
      format.load workspace source.path = .error failure →
      session.answer workspace (.add source) = (.refused failure, session) := by
    intro workspace source failure hload
    rw [hsession]
    exact answer_add_of_error hload
  refine ⟨hrefused, ?_, ?_, ?_, hfresh, ?_, ?_⟩
  · intro workspace source found failure hbreaks
    exact hrefused workspace source failure hbreaks.load_eq
  · intro workspace request hrequest
    cases request with
    | add source => exact absurd rfl (hrequest source)
    | _ => rfl
  · refine ⟨_, hsession, ?_, Libraries.holdsFirst_insertAll _⟩
    exact (forall₂_filings calls).imp fun call filing => Call.filing?_eq_some_iff.1
  · intro input sink
    rw [hfresh]
  · rintro front call back rfl
    rw [snd_replay_filter, replay_append, List.getElem?_append_right (length_fst_replay _ _).le,
      length_fst_replay, Nat.sub_self]
    rfl

section
open SymbolCache

/-- A written line and one that is no record. -/
def brokenText : List Char := idleFields.text ++ LineEnding.feed.returns ++ '\n' :: "1,3".toList

/-- A symbol cache that breaks off and one that does not. -/
def brokenWorkspace : Workspace where
  nodes :=
    [(⟨.working 0, ["broken.csv"]⟩, .file ⟨(octets brokenText).toArray⟩ 0),
      (⟨.working 0, ["gain.csv"]⟩, .file ⟨(octets gainText).toArray⟩ 0)]

theorem read_brokenText :
    SymbolCache.read (octets brokenText) =
      ⟨[⟨1, stored (.ofLocation 1 3) idleLiteral⟩], some (.badRecord 2 "1,3")⟩ := by
  have honeLine : '\n' ∉ idleFields.text ++ LineEnding.feed.returns := by decide
  have hgood := literal?_line (by decide : Writable idleLiteral) writes_idleFields .feed 1
  have hlast : lines (octets "1,3".toList) = [⟨octets "1,3".toList, false⟩] := by decide +kernel
  have hbad : Line.literal? 2 ⟨octets "1,3".toList, false⟩ = .error (.badRecord 2 "1,3") := by
    decide +kernel
  rw [SymbolCache.read, brokenText, lines_text_append honeLine, readLines, hgood, hlast, readLines,
    hbad]
  rfl

theorem breaksOff_brokenText :
    SourceFormat.csv.BreaksOff brokenWorkspace "broken.csv"
      [(.ofLocation 1 3, stored (.ofLocation 1 3) idleLiteral)] (.badRecord 2 "1,3") := by
  have hfind : brokenWorkspace.find "broken.csv"
      = .ok (.file ⟨(octets brokenText).toArray⟩ 0) := by rfl
  refine ⟨[⟨1, stored (.ofLocation 1 3) idleLiteral⟩], ?_, rfl⟩
  rw [SymbolCache.load, hfind]
  exact congrArg Except.ok read_brokenText

/-- The good line in front of the bad one is not kept, and the next source is filed as by a new
session. -/
theorem replay_merges_loaded_brokenText :
    let broken : Call := ⟨brokenWorkspace, .add ⟨"broken.csv", 3⟩⟩
    let gain : Call := ⟨brokenWorkspace, .add ⟨"gain.csv", 3⟩⟩
    ∃ table libraries, SourceFormat.csv.load brokenWorkspace "gain.csv" = .ok table ∧
      broken.answered (empty .csv) = (.refused (.badRecord 2 "1,3"), empty .csv) ∧
      ((empty .csv).replay [broken, gain]).2 = ⟨.csv, libraries⟩ ∧
      ((empty .csv).replay [gain]).2 = ⟨.csv, libraries⟩ ∧
      libraries.resolve 3 (.ofLocation 1 3) = .ok (stored (.ofLocation 1 3) idleLiteral) := by
  intro broken gain
  obtain ⟨table, hbuild, -, hidle⟩ := build_written_gainText
  have hfind : brokenWorkspace.find "gain.csv"
      = .ok (.file ⟨(octets gainText).toArray⟩ 0) := by rfl
  have hload : SourceFormat.csv.load brokenWorkspace "gain.csv" = .ok table := by
    rw [SourceFormat.load, SymbolCache.load, hfind]
    exact hbuild
  obtain ⟨-, hrefused, -⟩ := replay_merges_loaded .csv []
  obtain ⟨-, -, -, ⟨filings, hsession, hfilings, hholds⟩, hfresh, -⟩ :=
    replay_merges_loaded .csv [broken, gain]
  have hloaded : [broken, gain].filter (fun call => call.loads .csv) = [gain] := by
    have hbroken : broken.loads .csv = false := by
      change (SourceFormat.csv.load brokenWorkspace "broken.csv").isOk = false
      rw [breaksOff_brokenText.load_eq]
      rfl
    have hgain : gain.loads .csv = true := by
      change (SourceFormat.csv.load brokenWorkspace "gain.csv").isOk = true
      rw [hload]
      rfl
    simp [hbroken, hgain]
  rw [hloaded] at hfilings hfresh
  refine ⟨table, _, hload, hrefused _ ⟨"broken.csv", 3⟩ _ _ breaksOff_brokenText, hsession,
    hfresh.trans hsession, (hholds.ok_iff _ _ _).2 ?_⟩
  obtain ⟨filing, others, ⟨source, hrequest, hlibrary, htable⟩, hothers, rfl⟩ :=
    List.forall₂_cons_left_iff.1 hfilings
  obtain rfl := List.forall₂_nil_left_iff.1 hothers
  obtain ⟨library, other⟩ := filing
  obtain rfl := Request.add.inj hrequest
  obtain rfl : library = 3 := hlibrary
  obtain rfl : table = other := Except.ok.inj (hload.symm.trans htable)
  exact ⟨[], table, [], rfl, hidle, nofun⟩

end

end Session
end FirmwareTrace
