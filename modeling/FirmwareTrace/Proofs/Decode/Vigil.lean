import FirmwareTrace.Proofs.Decode.PlainScan
import FirmwareTrace.Proofs.Decode.Rounds

/-! # Follow runs among others

A vigil is a follow run and its watcher at one moment, either about to make a pass or inside
a wait.  In between others do as they like: before a pass, during it, and between the looks
of a wait.  What they do and how the watcher looks for it is left to a guard; the script of
the input says when data that grow in the middle of a pass reach its reads.  Whatever happens,
the passes and waits of a vigil are those of a follow run, `Walk.follows`.
-/
namespace FirmwareTrace
open Channel Decode

namespace Decode

/-- What others can do to a watcher and the data of its file, and what a watcher makes of
the data when it looks once. -/
structure Guard (Watcher Deed : Type) where
  deed : Deed → Watcher × ByteArray → Watcher × ByteArray → Prop
  /-- One look of a wait, and whether it ends the wait. -/
  look : ByteArray → Watcher → Bool → Watcher → Prop

/-- Others do one thing after the other. -/
inductive Guard.Deeds {Watcher Deed : Type} (guard : Guard Watcher Deed) :
    List Deed → Watcher × ByteArray → Watcher × ByteArray → Prop
  | nil (site : Watcher × ByteArray) : Deeds guard [] site site
  | cons {deed : Deed} {deeds : List Deed} {site mid last : Watcher × ByteArray}
      (first : guard.deed deed site mid) (rest : Deeds guard deeds mid last) :
      Deeds guard (deed :: deeds) site last

inductive Stage
  /-- The next pass is about to begin. -/
  | reading
  /-- Waits after a pass that completed at an offset. -/
  | waiting (visit : Visit) (offset : Nat)

structure Vigil (Watcher : Type) where
  watcher : Watcher
  input : Input
  sink : Sink
  stage : Stage

inductive Moment (Deed : Type)
  | others (deed : Deed)
  /-- A pass, and what others do meanwhile. -/
  | pass (meanwhile : List Deed)
  | look (woke : Bool)

namespace Moment

variable {Deed : Type}

def deeds : Moment Deed → List Deed
  | .others deed => [deed]
  | .pass meanwhile => meanwhile
  | .look _ => []

def isWake : Moment Deed → Bool
  | .look woke => woke
  | .others _ | .pass _ => false

end Moment

section History

variable {Deed : Type} (moments : List (Moment Deed)) (moment : Moment Deed)

/-- All that others did. -/
def deedsOf : List Deed := moments.flatMap Moment.deeds

/-- What others did since the last wait that ended, or from the start if none did. -/
def sinceWake : List Deed :=
  moments.foldl (fun deeds moment => if moment.isWake then [] else deeds ++ moment.deeds) []

/-- How many waits ended. -/
def wakes : Nat := moments.countP Moment.isWake

@[simp] theorem deedsOf_snoc : deedsOf (moments ++ [moment]) = deedsOf moments ++ moment.deeds := by
  simp [deedsOf]

@[simp] theorem sinceWake_snoc : sinceWake (moments ++ [moment]) =
    if moment.isWake then [] else sinceWake moments ++ moment.deeds := by
  simp [sinceWake]

@[simp] theorem wakes_snoc :
    wakes (moments ++ [moment]) = wakes moments + if moment.isWake then 1 else 0 := by
  simp [wakes, List.countP_cons]

end History

end Decode

variable {Watcher Deed Header Literal : Type}

/-- What one moment makes of a vigil.  Others change the data of the input; a pass that
completes is followed by a flush; a wait goes on with looks until one ends it, and the next
pass begins where the last one ended. -/
inductive Decoder.Step (decoder : Decoder Header Literal) (guard : Guard Watcher Deed) :
    Vigil Watcher → Moment Deed → Vigil Watcher → Prop
  | others {deed : Deed} {watcher watcher' : Watcher} {data : ByteArray} {input : Input}
      {sink : Sink} {stage : Stage}
      (done : guard.deed deed (watcher, input.stream.data) (watcher', data)) :
      Step decoder guard ⟨watcher, input, sink, stage⟩ (.others deed)
        ⟨watcher', input.mapData fun _ => data, sink, stage⟩
  | pass {meanwhile : List Deed} {watcher watcher' : Watcher} {input : Input} {sink : Sink}
      {offset : Nat} (completed : (decoder.pass input sink).ending = .ok offset)
      (done : guard.Deeds meanwhile (watcher, input.stream.data)
        (watcher', (decoder.pass input sink).input.stream.data)) :
      Step decoder guard ⟨watcher, input, sink, .reading⟩ (.pass meanwhile)
        ⟨watcher', (decoder.pass input sink).input, (decoder.pass input sink).sink.flush,
          .waiting ((decoder.pass input sink).visit sink) offset⟩
  | sleep {watcher watcher' : Watcher} {input : Input} {sink : Sink} {visit : Visit}
      {offset : Nat} (looked : guard.look input.stream.data watcher false watcher') :
      Step decoder guard ⟨watcher, input, sink, .waiting visit offset⟩ (.look false)
        ⟨watcher', input, sink, .waiting visit offset⟩
  | wake {watcher watcher' : Watcher} {input : Input} {sink : Sink} {visit : Visit}
      {offset : Nat} (looked : guard.look input.stream.data watcher true watcher') :
      Step decoder guard ⟨watcher, input, sink, .waiting visit offset⟩ (.look true)
        ⟨watcher', input.seek offset, sink, .reading⟩

/-- A vigil comes from one state to another in some moments. -/
inductive Decoder.Walk (decoder : Decoder Header Literal) (guard : Guard Watcher Deed)
    (start : Vigil Watcher) : List (Moment Deed) → Vigil Watcher → Prop
  | refl : Walk decoder guard start [] start
  | snoc {moments : List (Moment Deed)} {moment : Moment Deed} {vigil next : Vigil Watcher}
      (before : Walk decoder guard start moments vigil)
      (step : decoder.Step guard vigil moment next) :
      Walk decoder guard start (moments ++ [moment]) next

/-- There is a follow run over these streams that waits after this visit, once a number of its
waits were answered.  The data when its first pass begins may differ from those of the input. -/
def Decoder.WaitsAfter (decoder : Decoder Header Literal) (input : Input) (sink : Sink)
    (visit : Visit) (offset answered : Nat) : Prop :=
  ∃ data signals calls, signals.length = answered ∧ ∀ rest, ∃ later,
    (decoder.follow (input.mapData fun _ => data) sink none (signals ++ rest)).journal =
      .subscribe :: calls ++ [visit.call (.ok offset), .flush, .wait] ++ later

namespace Decoder

variable {decoder : Decoder Header Literal} {guard : Guard Watcher Deed} {start input now : Input}
  {startSink sink : Sink} {stage : Stage} {vigil next : Vigil Watcher} {moment : Moment Deed}
  {moments : List (Moment Deed)} {visit : Visit} {offset answered : Nat}

/-- The streams and the stage that a follow run has come to after some answers, with the data
that others have put there since its last pass. -/
inductive Follows (decoder : Decoder Header Literal) (start : Input) (startSink : Sink) :
    Nat → Input → Sink → Stage → Prop
  | fresh (data : ByteArray) :
      Follows decoder start startSink 0 (start.mapData fun _ => data) startSink .reading
  | waiting {first data : ByteArray} {rounds : List Round} {answered offset : Nat} {last : Input}
      {lastSink : Sink}
      (reaches : decoder.Reaches (start.mapData fun _ => first) startSink rounds last lastSink)
      (count : rounds.length = answered)
      (completed : (decoder.pass last lastSink).ending = .ok offset) :
      Follows decoder start startSink answered
        ((decoder.pass last lastSink).input.mapData fun _ => data)
        (decoder.pass last lastSink).sink.flush
        (.waiting ((decoder.pass last lastSink).visit lastSink) offset)
  | resumed {first data : ByteArray} {rounds : List Round} {answered offset : Nat} {last : Input}
      {lastSink : Sink}
      (reaches : decoder.Reaches (start.mapData fun _ => first) startSink rounds last lastSink)
      (count : rounds.length = answered)
      (completed : (decoder.pass last lastSink).ending = .ok offset) :
      Follows decoder start startSink (answered + 1)
        (((decoder.pass last lastSink).input.mapData fun _ => data).seek offset)
        (decoder.pass last lastSink).sink.flush .reading

namespace Follows

theorem mapData (h : decoder.Follows start startSink answered input sink stage)
    (data : ByteArray) :
    decoder.Follows start startSink answered (input.mapData fun _ => data) sink stage := by
  cases h with
  | fresh first =>
    rw [Input.mapData_mapData]
    exact .fresh data
  | waiting reaches count completed =>
    rw [Input.mapData_mapData]
    exact .waiting reaches count completed
  | resumed reaches count completed =>
    rw [Input.mapData_seek, Input.mapData_mapData]
    exact .resumed reaches count completed

theorem pass (h : decoder.Follows start startSink answered input sink .reading)
    (completed : (decoder.pass input sink).ending = .ok offset) :
    decoder.Follows start startSink answered (decoder.pass input sink).input
      (decoder.pass input sink).sink.flush
      (.waiting ((decoder.pass input sink).visit sink) offset) := by
  rw [← (decoder.pass input sink).input.mapData_self]
  cases h with
  | fresh data => exact .waiting (.start _ _) rfl completed
  -- all that others did between two passes comes to one replacement of the data
  | @resumed first data rounds answered offset last lastSink reaches count before =>
    refine .waiting (reaches.snoc (.replace data) before) ?_ completed
    rw [List.length_append, count]
    rfl

theorem wake (h : decoder.Follows start startSink answered input sink (.waiting visit offset)) :
    decoder.Follows start startSink (answered + 1) (input.seek offset) sink .reading := by
  cases h with
  | waiting reaches count completed => exact .resumed reaches count completed

theorem step (h : decoder.Follows start startSink answered vigil.input vigil.sink vigil.stage)
    (step : decoder.Step guard vigil moment next) :
    decoder.Follows start startSink (answered + if moment.isWake then 1 else 0) next.input
      next.sink next.stage := by
  cases step with
  | others done => exact h.mapData _
  | pass completed done => exact h.pass completed
  | sleep looked => exact h
  | wake looked => exact h.wake

end Follows

theorem Walk.follows_from {watcher : Watcher}
    (h : decoder.Walk guard ⟨watcher, start, startSink, .reading⟩ moments vigil) :
    decoder.Follows start startSink (wakes moments) vigil.input vigil.sink vigil.stage := by
  induction h with
  | refl =>
    have hfresh : decoder.Follows start startSink 0 (start.mapData fun _ => start.stream.data)
        startSink .reading := .fresh _
    rwa [Input.mapData_self] at hfresh
  | snoc _ step ih =>
    rw [wakes_snoc]
    exact ih.step step

/-- Whatever answers are left, a run goes on with its pass and the wait after it. -/
theorem exists_journal (completed : (decoder.pass input sink).ending = .ok offset)
    (signals : List Signal) (items : List Item) :
    ∃ later, (decoder.followSubscribed signals input sink items).journal =
      [((decoder.pass input sink).visit sink).call (.ok offset), .flush, .wait] ++ later := by
  rcases followSubscribed_cases signals input sink items with
    ⟨finish, hends, hrun⟩ | ⟨other, change, rest, -, hpass, hrun⟩ <;> rw [hrun]
  · cases hends with
    | failed failed => cases failed.symm.trans completed
    | waited hpass answered =>
      obtain rfl := Except.ok.inj (hpass.symm.trans completed)
      exact ⟨[], rfl⟩
  · obtain rfl := Except.ok.inj (hpass.symm.trans completed)
    exact ⟨_, rfl⟩

/-- A vigil that waits is a follow run that waits, answered once for each look that woke. -/
theorem Walk.follows {watcher later : Watcher}
    (h : decoder.Walk guard ⟨watcher, start, startSink, .reading⟩ moments
      ⟨later, now, sink, .waiting visit offset⟩) :
    decoder.WaitsAfter start startSink visit offset (wakes moments) := by
  have hfollows := h.follows_from
  generalize wakes moments = answered at hfollows
  cases hfollows with
  | @waiting first data rounds answered offset last lastSink reaches count completed =>
    refine ⟨first, rounds.map fun round => .modified round.change, rounds.flatMap Round.calls,
      (List.length_map _).trans count, fun rest => ?_⟩
    obtain ⟨later, hlater⟩ := exists_journal completed rest
      ([] ++ rounds.flatMap fun round => round.visit.items)
    refine ⟨later ++ [.unsubscribe], ?_⟩
    rw [follow]
    simp only [reaches.followSubscribed, Following.precede, hlater, List.append_assoc,
      List.cons_append]

/-- The start of a record, to which one more octet comes before the second read. -/
def cutInput : Input := .direct ⟨⟨#[0x91, 4]⟩, 0, [.upTo 1, .growth ⟨#[0]⟩]⟩

def grownInput : Input := .direct ⟨⟨#[0x91, 4, 0]⟩, 0, []⟩

theorem pass_cutInput (sink : Sink) :
    gainDecoder.pass cutInput sink = ⟨grownInput, sink, [], 3, .ok 0⟩ := by
  have hfill : (Window.ofOffset cutInput.position gainDecoder.format.maxRecordSize).fill
      cutInput gainDecoder.format.headerSize =
        ⟨⟨80, [0x91, 4, 0], 0, 0⟩, .direct ⟨⟨#[0x91, 4, 0]⟩, 3, []⟩, .ok false⟩ :=
    calc
      _ = Window.refill 12 ⟨80, [], 0, 0⟩ cutInput := rfl
      _ = Window.refill 12 ⟨80, [0x91], 0, 0⟩ (.direct ⟨⟨#[0x91, 4]⟩, 1, [.growth ⟨#[0]⟩]⟩) :=
        Window.refill_of_octets (by decide) rfl
      _ = Window.refill 12 ⟨80, [0x91, 4, 0], 0, 0⟩ (.direct ⟨⟨#[0x91, 4, 0]⟩, 3, []⟩) :=
        Window.refill_of_octets (by decide) rfl
      _ = _ := Window.refill_of_end (by decide) rfl
  exact gainDecoder.pass_of_fill hfill rfl sink

theorem pass_grownInput (sink : Sink) :
    gainDecoder.pass grownInput sink = ⟨grownInput, sink, [], 3, .ok 0⟩ := by
  have hfill : (Window.ofOffset grownInput.position gainDecoder.format.maxRecordSize).fill
      grownInput gainDecoder.format.headerSize =
        ⟨⟨80, [0x91, 4, 0], 0, 0⟩, .direct ⟨⟨#[0x91, 4, 0]⟩, 3, []⟩, .ok false⟩ :=
    calc
      _ = Window.refill 12 ⟨80, [], 0, 0⟩ grownInput := rfl
      _ = Window.refill 12 ⟨80, [0x91, 4, 0], 0, 0⟩ (.direct ⟨⟨#[0x91, 4, 0]⟩, 3, []⟩) :=
        Window.refill_of_octets (by decide) rfl
      _ = _ := Window.refill_of_end (by decide) rfl
  exact gainDecoder.pass_of_fill hfill rfl sink

theorem Step.of_pass {pass : Pass} {meanwhile : List Deed} {watcher later : Watcher}
    (hpass : decoder.pass input sink = pass) (completed : pass.ending = .ok offset)
    (done : guard.Deeds meanwhile (watcher, input.stream.data)
      (later, pass.input.stream.data)) :
    decoder.Step guard ⟨watcher, input, sink, .reading⟩ (.pass meanwhile)
      ⟨later, pass.input, pass.sink.flush, .waiting (pass.visit sink) offset⟩ := by
  subst hpass
  exact .pass completed done

/-- A vigil that is woken after the first pass and makes another one, over the same octets. -/
theorem walk_cutInput {meanwhile : List Deed} {watcher mid later : Watcher}
    (done : guard.Deeds meanwhile (watcher, cutInput.stream.data)
      (mid, grownInput.stream.data))
    (looked : guard.look grownInput.stream.data mid true later) :
    gainDecoder.Walk guard ⟨watcher, cutInput, {}, .reading⟩ [.pass meanwhile, .look true, .pass []]
      ⟨later, grownInput, ⟨.empty, none, 2⟩, .waiting ⟨[], .empty, 3⟩ 0⟩ := by
  have hfirst : gainDecoder.Step guard ⟨watcher, cutInput, {}, .reading⟩ (.pass meanwhile)
      ⟨mid, grownInput, ⟨.empty, none, 1⟩, .waiting ⟨[], .empty, 3⟩ 0⟩ :=
    .of_pass (pass_cutInput {}) rfl done
  have hsecond : gainDecoder.Step guard ⟨later, grownInput, ⟨.empty, none, 1⟩, .reading⟩
      (.pass []) ⟨later, grownInput, ⟨.empty, none, 2⟩, .waiting ⟨[], .empty, 3⟩ 0⟩ :=
    .of_pass (pass_grownInput _) rfl (.nil _)
  exact ((Walk.refl.snoc hfirst).snoc (.wake looked)).snoc hsecond

end Decoder
end FirmwareTrace
