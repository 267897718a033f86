import FirmwareTrace.Decode.Follow
import FirmwareTrace.Proofs.Decode.PlainScan

/-! # Following a trace that is only appended to

Each pass of a follow run scans a stretch of the final data and leaves the rest to
the passes after it, so the whole run is one scan that was interrupted.  When the
last pass came to the end of the data, nothing is left, and the run is the decoding
of the final data, `follow_eq_decode`.
-/
namespace FirmwareTrace
open Channel Decode

namespace Decode

/-- How far a pass read. -/
def Call.seen? : Call → Option Nat
  | .pass _ _ seen _ => some seen
  | _ => none

/-- How far the last pass of a run read. -/
def Following.reach (run : Following) : Nat := (run.journal.filterMap Call.seen?).getLastD 0

@[simp] theorem Stats.endOffset_ofItems (items : List Item) (endOffset : Nat) :
    (Stats.ofItems items endOffset).endOffset = endOffset := rfl

/-- A wake-up of the watcher, with the octets that were appended before it, if any. -/
def Signal.ofAppended : Option ByteArray → Signal
  | none => .modified .none
  | some octets => .modified (.append octets)

/-- The data after all that was appended. -/
def grown (data : ByteArray) (wakeups : List (Option ByteArray)) : ByteArray :=
  wakeups.foldl (fun data chunk => data ++ chunk.getD .empty) data

theorem filterMap_seen?_calls {call : Call} {seen : Nat} (h : call.seen? = some seen) :
    [call, .flush, .wait].filterMap Call.seen? = [seen] := by
  rw [List.filterMap_cons, h]
  rfl

theorem filterMap_seen?_bracket (journal : List Call) :
    (Call.subscribe :: journal ++ [Call.unsubscribe]).filterMap Call.seen?
      = journal.filterMap Call.seen? := by
  rw [List.filterMap_append, List.filterMap_cons]
  exact List.append_nil _

theorem reach_precede {run : Following} (calls : List Call)
    (h : run.journal.filterMap Call.seen? ≠ []) : (run.precede calls).reach = run.reach := by
  obtain ⟨seen, hseen⟩ := Option.ne_none_iff_exists'.1 (mt List.getLast?_eq_none_iff.1 h)
  simp [Following.reach, Following.precede, List.getLast?_append, hseen]

theorem octets_grown (data : ByteArray) (wakeups : List (Option ByteArray)) :
    Bytes.octets data <+: Bytes.octets (grown data wakeups) := by
  induction wakeups generalizing data with
  | nil => exact List.prefix_rfl
  | cons chunk wakeups ih =>
    refine List.IsPrefix.trans ?_ (ih (data ++ chunk.getD .empty))
    rw [Bytes.octets_append]
    exact List.prefix_append _ _

/-- An input moved to an offset, after octets were appended to its data. -/
def resumed (chunk : Option ByteArray) (offset : Nat) (input : Input) : Input :=
  (input.mapData fun data => data ++ chunk.getD .empty).seek offset

variable (chunk : Option ByteArray) (offset : Nat) (input : Input)

@[simp] theorem position_resumed : (resumed chunk offset input).position = offset :=
  Input.position_seek _ _

@[simp] theorem data_resumed :
    (resumed chunk offset input).stream.data = input.stream.data ++ chunk.getD .empty := by
  rw [resumed, Input.data_seek, Input.data_mapData]

@[simp] theorem script_resumed : (resumed chunk offset input).script = input.script := by
  rw [resumed, Input.script_seek, Input.script_mapData]

theorem coherent_resumed : (resumed chunk offset input).Coherent :=
  Input.coherent_seek _ _

theorem resumed_rewind :
    resumed chunk offset (input.rewind offset) = resumed chunk offset input := by
  rcases input.rewind_cases offset with ⟨h, -⟩ | h <;> rw [h]
  cases input <;> rfl

variable {mid last : Input} {part : List UInt8}

theorem script_resumed_suffix {ending : Option IoFault} (drains : Drains mid part ending last)
    (hmid : mid.Coherent) : (resumed chunk offset last).script <:+ mid.script := by
  rw [script_resumed]
  exact (drains.moved hmid).script

variable {chunk offset} in
theorem grown_resumed {wakeups : List (Option ByteArray)} {ending : Option IoFault}
    (drains : Drains mid part ending last) (hmid : mid.Coherent)
    (hscript : ∀ step ∈ mid.script, step.Harmless) :
    grown (resumed chunk offset last).stream.data wakeups
      = grown mid.stream.data (chunk :: wakeups) := by
  rw [data_resumed, (drains.of_harmless hmid hscript).2]
  rfl

theorem room_flush_offer {sink : Sink} (hroom : sink.room = none) (text : String) :
    (sink.offer text).flush.room = none := by
  simp [Sink.flush, Sink.offer, hroom]

end Decode

namespace Decoder

variable {Header Literal : Type} {decoder : Decoder Header Literal} {input : Input} {sink : Sink}

/-- A scan of a stretch of the data is resumed where it stopped. -/
theorem scan_resume {octets part : List UInt8} {offset : Nat} (h : part <+: octets.drop offset) :
    decoder.scan offset (octets.drop offset) =
      (decoder.scan (decoder.scan offset part).endOffset
        (octets.drop (decoder.scan offset part).endOffset)).prepend
          (decoder.scan offset part).items := by
  obtain ⟨rest, hrest⟩ := h
  have hstart := decoder.le_endOffset_scan offset part
  have hend := decoder.endOffset_scan_le offset part
  have hdrop : octets.drop (decoder.scan offset part).endOffset
      = part.drop ((decoder.scan offset part).endOffset - offset) ++ rest := by
    rw [← List.drop_append_of_le_length (by omega), hrest, List.drop_drop,
      Nat.add_sub_cancel' hstart]
  rw [← hrest, decoder.scan_append, hdrop]

/-- A leg over harmless reads and an output that takes everything. -/
theorem leg_of_harmless (hinput : input.Coherent)
    (hscript : ∀ step ∈ input.script, step.Harmless) (hroom : sink.room = none)
    (items : List Item) :
    ∃ part last call, Drains input part none last ∧ call.seen? = some last.position ∧
      decoder.leg input sink items =
        ⟨[call, .flush, .wait], last.rewind (decoder.scan input.position part).endOffset,
          (sink.offer (decoder.scan input.position part).text).flush,
          items ++ (decoder.scan input.position part).items,
          .ok (Stats.ofItems (items ++ (decoder.scan input.position part).items)
            (decoder.scan input.position part).endOffset)⟩ := by
  obtain ⟨part, ending, last, drains, hpasses⟩ := decoder.exists_drains_pass hinput
  obtain rfl := (drains.of_harmless hinput hscript).1
  have hpass := (hpasses sink).ended (Sink.fits_of_room_eq_none hroom _) rfl
  refine ⟨part, last, _, drains, ?_, by simp only [leg, hpass]; rfl⟩
  rfl

theorem filterMap_seen?_ne_nil (signals : List Signal) (input : Input) (sink : Sink)
    (items : List Item) :
    (decoder.followSubscribed signals input sink items).journal.filterMap Call.seen? ≠ [] := by
  have hleg : (decoder.leg input sink items).calls.filterMap Call.seen? ≠ [] := by
    unfold leg
    dsimp only
    split <;> simp [Call.seen?]
  cases signals with
  | nil => exact hleg
  | cons signal rest =>
    unfold followSubscribed
    dsimp only
    split
    · exact hleg
    · exact hleg
    · exact hleg
    · simp only [Following.precede, List.filterMap_append]
      exact fun h => hleg (List.append_eq_nil_iff.1 h).1

/-- The run found the items of a scan, after others, and wrote their text. -/
structure Completes (run : Following) (sink : Sink) (items : List Item) (whole : Scan) : Prop where
  outcome : run.outcome = .ok (Stats.ofItems (items ++ whole.items) whole.endOffset)
  items : run.items = items ++ whole.items
  written : run.sink.written = sink.written ++ whole.text.toUTF8

theorem Completes.precede {run : Following} {items : List Item} {first rest : Scan}
    (calls : List Call) (hroom : sink.room = none)
    (h : Completes run (sink.offer first.text).flush (items ++ first.items) rest) :
    Completes (run.precede calls) sink items (rest.prepend first.items) := by
  obtain ⟨houtcome, hitems, hwritten⟩ := h
  refine ⟨?_, ?_, ?_⟩
  · simpa [Following.precede] using houtcome
  · simpa [Following.precede] using hitems
  · have hsink : (sink.offer first.text).flush.written = sink.written ++ first.text.toUTF8 :=
      Sink.written_offer_of_room_eq_none hroom first.text
    rw [hsink, ByteArray.append_assoc] at hwritten
    simpa [Following.precede, Scan.text_prepend, Scan.text] using hwritten

/-- The last pass of a run, over harmless reads and an output that takes everything. -/
theorem followSubscribed_closing {closing : List Signal} (items : List Item)
    (hclosing : ∀ signal ∈ closing.head?, signal = .failure .closed) (hinput : input.Coherent)
    (hscript : ∀ step ∈ input.script, step.Harmless) (hroom : sink.room = none) :
    ∃ part last, Drains input part none last ∧
      (decoder.followSubscribed closing input sink items).reach = last.position ∧
      Completes (decoder.followSubscribed closing input sink items) sink items
        (decoder.scan input.position part) := by
  obtain ⟨part, last, call, drains, hseen, hleg⟩ :=
    decoder.leg_of_harmless hinput hscript hroom items
  have hrun : decoder.followSubscribed closing input sink items
      = (decoder.leg input sink items).close (decoder.leg input sink items).outcome := by
    cases closing with
    | nil => rfl
    | cons signal rest =>
      obtain rfl := hclosing signal rfl
      simp only [followSubscribed, hleg]
  rw [hleg] at hrun
  refine ⟨part, last, drains, ?_, ?_⟩
  · simp only [hrun, Following.reach, Leg.close, filterMap_seen?_calls hseen]
    rfl
  · rw [hrun]
    exact ⟨rfl, rfl, Sink.written_offer_of_room_eq_none hroom _⟩

/-- A wake-up resumes the run where its pass stopped, over data that may have grown. -/
theorem followSubscribed_appended (chunk : Option ByteArray) (rest : List Signal)
    (items : List Item) (hinput : input.Coherent)
    (hscript : ∀ step ∈ input.script, step.Harmless) (hroom : sink.room = none) :
    ∃ part last calls, Drains input part none last ∧
      decoder.followSubscribed (.ofAppended chunk :: rest) input sink items =
        (decoder.followSubscribed rest
          (resumed chunk (decoder.scan input.position part).endOffset last)
          (sink.offer (decoder.scan input.position part).text).flush
          (items ++ (decoder.scan input.position part).items)).precede calls := by
  obtain ⟨part, last, call, drains, -, hleg⟩ :=
    decoder.leg_of_harmless hinput hscript hroom items
  refine ⟨part, last, [call, .flush, .wait], drains, ?_⟩
  rw [← resumed_rewind]
  cases chunk with
  | none =>
    have hsame : Change.none.apply = fun data => data ++ ByteArray.empty := by
      funext data
      exact ByteArray.append_empty.symm
    simp only [Signal.ofAppended, followSubscribed, hleg, hsame, resumed, Option.getD_none,
      Stats.endOffset_ofItems]
  | some octets =>
    simp only [Signal.ofAppended, followSubscribed, hleg]
    rfl

/-- The induction on the wake-ups: what was found so far, and the scan of the final
data from the offset reached, are the whole scan. -/
theorem completes_followSubscribed (wakeups : List (Option ByteArray)) (closing : List Signal)
    (hclosing : ∀ signal ∈ closing.head?, signal = .failure .closed) (items : List Item)
    (hinput : input.Coherent) (hscript : ∀ step ∈ input.script, step.Harmless)
    (hroom : sink.room = none)
    (hreach : (grown input.stream.data wakeups).size ≤ (decoder.followSubscribed
      (wakeups.map .ofAppended ++ closing) input sink items).reach) :
    Completes (decoder.followSubscribed (wakeups.map .ofAppended ++ closing) input sink items)
      sink items (decoder.scan input.position
        ((Bytes.octets (grown input.stream.data wakeups)).drop input.position)) := by
  induction wakeups generalizing input sink items with
  | nil =>
    obtain ⟨part, last, drains, hseen, hrun⟩ :=
      decoder.followSubscribed_closing items hclosing hinput hscript hroom
    rw [List.map_nil, List.nil_append] at hreach ⊢
    rw [hseen] at hreach
    have hpart : part = (Bytes.octets (grown input.stream.data [])).drop input.position :=
      drains.eq_of_length_le hinput hscript hreach
    rwa [← hpart]
  | cons chunk wakeups ih =>
    obtain ⟨part, last, calls, drains, hrun⟩ := decoder.followSubscribed_appended chunk
      (wakeups.map .ofAppended ++ closing) items hinput hscript hroom
    have hpart := (drains.isPrefix_of_harmless hinput hscript).trans
      ((octets_grown input.stream.data (chunk :: wakeups)).drop input.position)
    rw [List.map_cons, List.cons_append, hrun] at hreach ⊢
    rw [reach_precede _ (filterMap_seen?_ne_nil _ _ _ _)] at hreach
    rw [scan_resume hpart]
    refine .precede _ hroom ?_
    have hrest := ih (items ++ (decoder.scan input.position part).items)
      (coherent_resumed chunk (decoder.scan input.position part).endOffset last)
      (fun step hstep => hscript step ((script_resumed_suffix _ _ drains hinput).subset hstep))
      (room_flush_offer hroom (decoder.scan input.position part).text)
    rw [grown_resumed drains hinput hscript, position_resumed] at hrest
    exact hrest hreach

/-- When no read is cut to nothing, the last pass comes to the end of the data. -/
theorem size_grown_le_reach (wakeups : List (Option ByteArray)) (closing : List Signal)
    (hclosing : ∀ signal ∈ closing.head?, signal = .failure .closed) (items : List Item)
    (hinput : input.Coherent) (hscript : ∀ step ∈ input.script, step.Productive)
    (hroom : sink.room = none) :
    (grown input.stream.data wakeups).size ≤ (decoder.followSubscribed
      (wakeups.map .ofAppended ++ closing) input sink items).reach := by
  have hharmless := fun step hstep => (hscript step hstep).harmless
  induction wakeups generalizing input sink items with
  | nil =>
    obtain ⟨part, last, drains, hseen, -⟩ :=
      decoder.followSubscribed_closing items hclosing hinput hharmless hroom
    rw [List.map_nil, List.nil_append, hseen]
    have hend := drains.length_le_of_productive hinput hscript
    rwa [Input.octets, (drains.of_harmless hinput hharmless).2] at hend
  | cons chunk wakeups ih =>
    obtain ⟨part, last, calls, drains, hrun⟩ := decoder.followSubscribed_appended chunk
      (wakeups.map .ofAppended ++ closing) items hinput hharmless hroom
    have hscript' := fun step hstep => hscript step ((script_resumed_suffix chunk
      (decoder.scan input.position part).endOffset drains hinput).subset hstep)
    have hrest := ih (items ++ (decoder.scan input.position part).items)
      (coherent_resumed chunk (decoder.scan input.position part).endOffset last)
      hscript' (room_flush_offer hroom (decoder.scan input.position part).text)
      (fun step hstep => (hscript' step hstep).harmless)
    rw [List.map_cons, List.cons_append, hrun, reach_precede _ (filterMap_seen?_ne_nil _ _ _ _)]
    rwa [grown_resumed drains hinput hharmless] at hrest

theorem reach_follow (input : Input) (sink : Sink) (signals : List Signal) :
    (decoder.follow input sink none signals).reach
      = (decoder.followSubscribed signals input sink []).reach := by
  simp only [follow, Following.reach, filterMap_seen?_bracket]

/-- The run of a trace that is only appended to, when its last pass came to the end of
the data, is the decoding of the final data: nothing is found twice and nothing lost. -/
theorem follow_eq_decode (decoder : Decoder Header Literal) (hinput : input.Coherent)
    (hscript : ∀ step ∈ input.script, step.Harmless) (hroom : sink.room = none)
    (wakeups : List (Option ByteArray)) (closing : List Signal)
    (hclosing : ∀ signal ∈ closing.head?, signal = .failure .closed)
    (hreach : (grown input.stream.data wakeups).size ≤ (decoder.follow input sink none
      (wakeups.map .ofAppended ++ closing)).reach) :
    let run := decoder.follow input sink none (wakeups.map .ofAppended ++ closing)
    let once := decoder.decode (.direct ⟨grown input.stream.data wakeups, input.position, []⟩) {}
    ∃ stats, run.outcome = .ok stats ∧ once.outcome = .ok stats ∧ run.items = once.items ∧
      run.sink.written = sink.written ++ once.sink.written := by
  rw [reach_follow] at hreach
  have hrun := completes_followSubscribed wakeups closing hclosing [] hinput hscript hroom hreach
  have hroom' : ({} : Sink).room = none := rfl
  obtain ⟨last, honce⟩ := decoder.decode_eq_scan
    (Input.coherent_direct ⟨grown input.stream.data wakeups, input.position, []⟩)
    (fun _ hstep => absurd hstep List.not_mem_nil) hroom'
  intro run once
  refine ⟨_, hrun.outcome, congrArg Decoding.outcome honce, ?_, ?_⟩
  · exact hrun.items.trans (congrArg Decoding.items honce).symm
  · have hwritten : once.sink.written = ({} : Sink).written ++ _ :=
      (congrArg (fun done => done.sink.written) honce).trans
        (Sink.written_offer_of_room_eq_none hroom' _)
    have hempty : ({} : Sink).written = ByteArray.empty := rfl
    rw [hwritten, hempty, ByteArray.empty_append]
    exact hrun.written

/-- The octets that complete the record that `gainTrace` starts last. -/
def gainRest : ByteArray := ⟨#[4, 0, 0, 78, 0, 0, 0, 0, 0, 0, 0, 1, 0, 0, 0]⟩

theorem follow_eq_decode_gain :
    let run := gainDecoder.follow gainInput {} none
      ([none, some gainRest].map .ofAppended ++ [.failure .closed])
    let once := gainDecoder.decode (.direct ⟨gainTrace ++ .empty ++ gainRest, 0, []⟩) {}
    (gainInput.Coherent ∧ ∀ step ∈ gainInput.script, step.Harmless) ∧
      (gainTrace ++ .empty ++ gainRest).size ≤ run.reach ∧
      ∃ stats, run.outcome = .ok stats ∧ once.outcome = .ok stats ∧ run.items = once.items ∧
        run.sink.written = ByteArray.empty ++ once.sink.written := by
  intro run once
  have hharmless := fun step hstep => (productive_gainInput step hstep).harmless
  have hclosing : ∀ signal ∈ [Signal.failure .closed].head?, signal = .failure .closed := by
    simp
  have hroom : ({} : Sink).room = none := rfl
  have hreach := gainDecoder.size_grown_le_reach [none, some gainRest] [.failure .closed]
    hclosing [] coherent_gainInput productive_gainInput hroom
  rw [← reach_follow] at hreach
  exact ⟨⟨coherent_gainInput, hharmless⟩, hreach,
    gainDecoder.follow_eq_decode coherent_gainInput hharmless hroom _ _ hclosing hreach⟩

end Decoder
end FirmwareTrace
