import FirmwareTrace.Decode.Follow
import FirmwareTrace.Proofs.Decode.Passing

/-! # The rounds of a follow run

A round is a pass that completed and whose wait was answered with a change of the data.
`Reaches` leads from one state of the streams to a later one in rounds, whatever the
changes are, and every subscribed run goes through some rounds and then one last pass,
`exists_rounds_follow`.
-/
namespace FirmwareTrace
open Channel Decode

namespace Decode

/-- What a pass found and wrote, and how far it read. -/
structure Visit where
  items : List Item
  written : ByteArray
  seen : Nat

/-- A pass that completed at an offset, and the change that the wait after it was
answered with. -/
structure Round where
  visit : Visit
  offset : Nat
  change : Change

/-- How a run ends. -/
inductive Finish
  /-- The last pass failed, and no wait follows it. -/
  | failed (visit : Visit) (fault : IoFault)
  /-- The last pass completed at an offset, and the wait after it failed. -/
  | waited (visit : Visit) (offset : Nat) (fault : WatchFault)

def Visit.call (visit : Visit) (ending : Except IoFault Nat) : Call :=
  .pass visit.items visit.written visit.seen ending

def Round.calls (round : Round) : List Call :=
  [round.visit.call (.ok round.offset), .flush, .wait]

namespace Finish

def visit : Finish → Visit
  | .failed visit _ | .waited visit _ _ => visit

def calls : Finish → List Call
  | .failed visit fault => [visit.call (.error fault)]
  | .waited visit offset _ => [visit.call (.ok offset), .flush, .wait]

/-- The sink that the last pass left, after the calls that follow it. -/
def settle (sink : Sink) : Finish → Sink
  | .failed _ _ => sink
  | .waited _ _ _ => sink.flush

/-- What a run comes to that found `items` in all its passes. -/
def outcome (items : List Item) : Finish → Except Failure Stats
  | .failed _ fault => .error (.io fault)
  | .waited _ offset .closed => .ok (Stats.ofItems items offset)
  | .waited _ _ fault => .error (.watch fault)

theorem outcome_eq_ok {finish : Finish} {items : List Item} {stats : Stats} :
    finish.outcome items = .ok stats ↔
      ∃ visit offset, finish = .waited visit offset .closed ∧
        stats = Stats.ofItems items offset := by
  cases finish with
  | failed visit fault => simp [outcome]
  | waited visit offset fault => cases fault <;> simp [outcome, eq_comm]

theorem outcome_eq_watch {finish : Finish} {items : List Item} {fault : WatchFault} :
    finish.outcome items = .error (.watch fault) ↔
      fault ≠ .closed ∧ ∃ visit offset, finish = .waited visit offset fault := by
  cases finish with
  | failed visit fault => simp [outcome]
  | waited visit offset other => cases other <;> grind [outcome]

theorem outcome_eq_io {finish : Finish} {items : List Item} {fault : IoFault} :
    finish.outcome items = .error (.io fault) ↔ ∃ visit, finish = .failed visit fault := by
  cases finish with
  | failed visit fault => simp [outcome]
  | waited visit offset fault => cases fault <;> simp [outcome]

end Finish

/-- The failure that a wait is answered with; without a signal the watcher is closed. -/
def refusal? : List Signal → Option WatchFault
  | [] => some .closed
  | .failure fault :: _ => some fault
  | .modified _ :: _ => none

namespace Pass

/-- The pass, seen from the sink it started with. -/
def visit (pass : Pass) (sink : Sink) : Visit :=
  ⟨pass.items, pass.sink.written.extract sink.written.size pass.sink.written.size, pass.seen⟩

/-- The sink took what it had room for of the text of a plain scan, and only a pass that
found all of it completed. -/
structure Covers (pass : Pass) (sink : Sink) (plain : Scan) : Prop where
  output : pass.sink = sink.offer plain.text
  items : pass.items <+: plain.items
  completed : ∀ offset, pass.ending = .ok offset →
    sink.Fits plain.text ∧ pass.items = plain.items ∧ offset = plain.endOffset

variable {pass : Pass} {sink : Sink} {plain : Scan}

theorem Covers.written_visit (h : pass.Covers sink plain) :
    (pass.visit sink).written = sink.share plain.text := by
  have hwritten : pass.sink.written = sink.written ++ sink.share plain.text := by
    rw [h.output, Sink.written_offer]
  rw [visit, hwritten]
  exact ByteArray.extract_append_eq_right rfl ByteArray.size_append

theorem Covers.written_sink (h : pass.Covers sink plain) :
    pass.sink.written = sink.written ++ (pass.visit sink).written := by
  rw [h.written_visit, h.output, Sink.written_offer]

theorem Covers.flushes_sink (h : pass.Covers sink plain) : pass.sink.flushes = sink.flushes := by
  rw [h.output, Sink.flushes_offer]

/-- A pass that completed wrote the whole text of what it found. -/
theorem Covers.written_of_completed (h : pass.Covers sink plain) {offset : Nat}
    (completed : pass.ending = .ok offset) :
    (pass.visit sink).written = (String.join (pass.items.map Item.text)).toUTF8 := by
  obtain ⟨hfits, hitems, -⟩ := h.completed offset completed
  rw [h.written_visit, Sink.share_of_fits hfits, hitems, Scan.text]

end Pass
end Decode

namespace Decoder

variable {Header Literal : Type} (decoder : Decoder Header Literal)

/-- A run comes from some streams to later ones in rounds. -/
inductive Reaches : Input → Sink → List Round → Input → Sink → Prop
  | start (input : Input) (sink : Sink) : Reaches input sink [] input sink
  | round {input last : Input} {sink lastSink : Sink} {offset : Nat} {rounds : List Round}
      (change : Change) (completed : (decoder.pass input sink).ending = .ok offset)
      (rest : Reaches (((decoder.pass input sink).input.mapData change.apply).seek offset)
        (decoder.pass input sink).sink.flush rounds last lastSink) :
      Reaches input sink (⟨(decoder.pass input sink).visit sink, offset, change⟩ :: rounds) last
        lastSink

/-- How the pass from some streams ends a run that has the given signals left. -/
inductive Ends (input : Input) (sink : Sink) (signals : List Signal) : Finish → Prop
  | failed {fault : IoFault} (failed : (decoder.pass input sink).ending = .error fault) :
      Ends input sink signals (.failed ((decoder.pass input sink).visit sink) fault)
  | waited {offset : Nat} {fault : WatchFault}
      (completed : (decoder.pass input sink).ending = .ok offset)
      (answered : refusal? signals = some fault) :
      Ends input sink signals (.waited ((decoder.pass input sink).visit sink) offset fault)

/-- What a pass takes over from the run of its turns. -/
theorem pass_of_run {input last : Input} {sink output : Sink} {window : Window}
    {found : List Item} {ending : Option IoFault}
    (h : decoder.run ⟨input, sink, .ofOffset input.position decoder.format.maxRecordSize, []⟩
      = (⟨last, output, window, found.reverse ++ []⟩, ending)) :
    (decoder.pass input sink).sink = output ∧ (decoder.pass input sink).items = found ∧
      ∀ offset, (decoder.pass input sink).ending = .ok offset →
        ending = none ∧ offset = window.offset := by
  cases ending with
  | none =>
    simp only [pass, h, List.append_nil, List.reverse_reverse, true_and]
    intro offset hoffset
    exact (Except.ok.inj hoffset).symm
  | some fault =>
    simp only [pass, h, List.append_nil, List.reverse_reverse, true_and]
    intro offset hoffset
    cases hoffset

/-- Every pass covers the plain scan of some octets from its position on. -/
theorem exists_covers_pass (input : Input) (sink : Sink) :
    ∃ part, (decoder.pass input sink).Covers sink (decoder.scan input.position part) := by
  obtain ⟨part, ending, last, -, hruns⟩ := decoder.exists_drains_run input
    (.ofOffset input.position decoder.format.maxRecordSize)
  obtain ⟨hcomplete, hoverfull⟩ := hruns sink []
  refine ⟨part, ?_⟩
  by_cases hfits : sink.Fits (decoder.scan input.position part).text
  · obtain ⟨window, hwindow, -, hrun⟩ := hcomplete hfits
    obtain ⟨houtput, hitems, hending⟩ := decoder.pass_of_run hrun
    refine ⟨houtput, hitems ▸ List.prefix_rfl, fun offset h => ⟨hfits, hitems, ?_⟩⟩
    exact (hending offset h).2.trans hwindow
  · obtain ⟨mid, window, found, hfound, hrun⟩ := hoverfull hfits
    obtain ⟨houtput, hitems, hending⟩ := decoder.pass_of_run hrun
    refine ⟨houtput, hitems ▸ hfound, fun offset h => ?_⟩
    cases (hending offset h).1

variable {decoder} {input : Input} {sink : Sink}

theorem leg_of_error {fault : IoFault} (failed : (decoder.pass input sink).ending = .error fault)
    (items : List Item) :
    decoder.leg input sink items =
      ⟨[((decoder.pass input sink).visit sink).call (.error fault)],
        (decoder.pass input sink).input, (decoder.pass input sink).sink,
        items ++ (decoder.pass input sink).items, .error (.io fault)⟩ := by
  simp only [leg, failed]
  rfl

theorem leg_of_ok {offset : Nat} (completed : (decoder.pass input sink).ending = .ok offset)
    (items : List Item) :
    decoder.leg input sink items =
      ⟨[((decoder.pass input sink).visit sink).call (.ok offset), .flush, .wait],
        (decoder.pass input sink).input, (decoder.pass input sink).sink.flush,
        items ++ (decoder.pass input sink).items,
        .ok (Stats.ofItems (items ++ (decoder.pass input sink).items) offset)⟩ := by
  simp only [leg, completed]
  rfl

/-- The run of the last pass. -/
def ending (decoder : Decoder Header Literal) (input : Input) (sink : Sink) (items : List Item)
    (finish : Finish) : Following :=
  ⟨finish.calls, (decoder.pass input sink).input, finish.settle (decoder.pass input sink).sink,
    items ++ finish.visit.items, finish.outcome (items ++ finish.visit.items)⟩

/-- A pass that completed, with a change for an answer, is a round before the rest of the run. -/
theorem followSubscribed_modified {offset : Nat} {change : Change} (rest : List Signal)
    (items : List Item) (completed : (decoder.pass input sink).ending = .ok offset) :
    decoder.followSubscribed (.modified change :: rest) input sink items =
      (decoder.followSubscribed rest
        (((decoder.pass input sink).input.mapData change.apply).seek offset)
        (decoder.pass input sink).sink.flush (items ++ (decoder.pass input sink).items)).precede
          (Round.calls ⟨(decoder.pass input sink).visit sink, offset, change⟩) := by
  simp only [followSubscribed, leg_of_ok completed]
  rfl

/-- What a subscribed run does first: its only pass, or a round before the rest of it. -/
theorem followSubscribed_cases (signals : List Signal) (input : Input) (sink : Sink)
    (items : List Item) :
    (∃ finish, decoder.Ends input sink signals finish ∧
        decoder.followSubscribed signals input sink items
          = decoder.ending input sink items finish) ∨
      ∃ offset change rest, signals = .modified change :: rest ∧
        (decoder.pass input sink).ending = .ok offset ∧
        decoder.followSubscribed signals input sink items =
          (decoder.followSubscribed rest
            (((decoder.pass input sink).input.mapData change.apply).seek offset)
            (decoder.pass input sink).sink.flush
            (items ++ (decoder.pass input sink).items)).precede
              (Round.calls ⟨(decoder.pass input sink).visit sink, offset, change⟩) := by
  cases hending : (decoder.pass input sink).ending with
  | error fault =>
    refine .inl ⟨_, .failed hending, ?_⟩
    cases signals <;> simp only [followSubscribed, leg_of_error hending] <;> rfl
  | ok offset =>
    cases signals with
    | nil =>
      refine .inl ⟨_, .waited hending rfl, ?_⟩
      simp only [followSubscribed, leg_of_ok hending]
      rfl
    | cons signal rest =>
      cases signal with
      | failure fault =>
        refine .inl ⟨_, .waited hending rfl, ?_⟩
        cases fault <;> simp only [followSubscribed, leg_of_ok hending] <;> rfl
      | modified change =>
        exact .inr ⟨offset, change, rest, rfl, rfl, followSubscribed_modified rest items hending⟩

/-- One more round after those that lead to the streams. -/
theorem Reaches.snoc {last : Input} {lastSink : Sink} {offset : Nat} {rounds : List Round}
    (h : decoder.Reaches input sink rounds last lastSink) (change : Change)
    (completed : (decoder.pass last lastSink).ending = .ok offset) :
    decoder.Reaches input sink
      (rounds ++ [⟨(decoder.pass last lastSink).visit lastSink, offset, change⟩])
      (((decoder.pass last lastSink).input.mapData change.apply).seek offset)
      (decoder.pass last lastSink).sink.flush := by
  induction h with
  | start input sink => exact .round change completed (.start _ _)
  | round earlier before _ ih => exact .round earlier before (ih completed)

/-- The changes of rounds that lead to some streams are answers that bring a run there. -/
theorem Reaches.followSubscribed {last : Input} {lastSink : Sink} {rounds : List Round}
    (h : decoder.Reaches input sink rounds last lastSink) (rest : List Signal)
    (items : List Item) :
    decoder.followSubscribed (rounds.map (fun round => .modified round.change) ++ rest) input sink
        items =
      (decoder.followSubscribed rest last lastSink
        (items ++ rounds.flatMap fun round => round.visit.items)).precede
          (rounds.flatMap Round.calls) := by
  induction h generalizing items with
  | start input sink =>
    rw [List.flatMap_nil, List.flatMap_nil, List.append_nil]
    rfl
  | round change completed _ ih =>
    rw [List.map_cons, List.cons_append, followSubscribed_modified _ _ completed, ih]
    simp only [Following.precede, List.flatMap_cons, List.append_assoc]
    rfl

/-- Every subscribed run goes through rounds, one for each signal that it uses of a
change, and ends with one more pass. -/
theorem exists_rounds (decoder : Decoder Header Literal) (signals : List Signal) (input : Input)
    (sink : Sink) (items : List Item) :
    ∃ rounds rest last lastSink finish,
      signals = rounds.map (fun round => .modified round.change) ++ rest ∧
      decoder.Reaches input sink rounds last lastSink ∧ decoder.Ends last lastSink rest finish ∧
      decoder.followSubscribed signals input sink items =
        (decoder.ending last lastSink (items ++ rounds.flatMap fun round => round.visit.items)
          finish).precede (rounds.flatMap Round.calls) := by
  induction signals generalizing input sink items with
  | nil =>
    rcases followSubscribed_cases [] input sink items with
      ⟨finish, hends, hrun⟩ | ⟨offset, change, rest, hsignals, -⟩
    · refine ⟨[], [], input, sink, finish, rfl, .start input sink, hends, ?_⟩
      rw [hrun, List.flatMap_nil, List.flatMap_nil, List.append_nil]
      rfl
    · cases hsignals
  | cons signal signals ih =>
    rcases followSubscribed_cases (signal :: signals) input sink items with
      ⟨finish, hends, hrun⟩ | ⟨offset, change, rest, hsignals, hpass, hrun⟩
    · refine ⟨[], signal :: signals, input, sink, finish, rfl, .start input sink, hends, ?_⟩
      rw [hrun, List.flatMap_nil, List.flatMap_nil, List.append_nil]
      rfl
    · obtain ⟨rfl, rfl⟩ := List.cons.inj hsignals
      obtain ⟨rounds, rest, last, lastSink, finish, hrest, hreaches, hends, hmore⟩ :=
        ih (((decoder.pass input sink).input.mapData change.apply).seek offset)
          (decoder.pass input sink).sink.flush (items ++ (decoder.pass input sink).items)
      refine ⟨_ :: rounds, rest, last, lastSink, finish, ?_, .round change hpass hreaches, hends,
        ?_⟩
      · rw [hrest]
        rfl
      · rw [hrun, hmore, List.flatMap_cons, List.flatMap_cons, List.append_assoc]
        simp only [Following.precede, List.append_assoc]
        rfl

/-- A run that was not refused brackets its rounds and its last pass with the subscription. -/
theorem exists_rounds_follow (decoder : Decoder Header Literal) (signals : List Signal)
    (input : Input) (sink : Sink) :
    ∃ rounds rest last lastSink finish,
      signals = rounds.map (fun round => .modified round.change) ++ rest ∧
      decoder.Reaches input sink rounds last lastSink ∧ decoder.Ends last lastSink rest finish ∧
      decoder.follow input sink none signals =
        ⟨.subscribe :: (rounds.flatMap Round.calls ++ finish.calls) ++ [.unsubscribe],
          (decoder.pass last lastSink).input, finish.settle (decoder.pass last lastSink).sink,
          (rounds.flatMap fun round => round.visit.items) ++ finish.visit.items,
          finish.outcome ((rounds.flatMap fun round => round.visit.items)
            ++ finish.visit.items)⟩ := by
  obtain ⟨rounds, rest, last, lastSink, finish, hsignals, hreaches, hends, hrun⟩ :=
    decoder.exists_rounds signals input sink []
  refine ⟨rounds, rest, last, lastSink, finish, hsignals, hreaches, hends, ?_⟩
  simp only [follow, hrun]
  rfl

end Decoder
end FirmwareTrace
