import FirmwareTrace.Proofs.Decode.Rounds

/-! # What a follow run does around its waits

The journal of a run is one subscription, rounds of a pass, a flush and a wait, at most
one failed pass, and one end of the subscription, `follow_brackets`.  A wait is never
made over octets that were not flushed, and nothing but the end of the subscription
comes after one that failed.
-/
namespace FirmwareTrace
open Channel Decode

namespace Decode

namespace Call

/-- What a sink has taken and how often it was flushed, after one more call. -/
def onSink (state : ByteArray × Nat) : Call → ByteArray × Nat
  | .pass _ written _ _ => (state.1 ++ written, state.2)
  | .flush => (state.1, state.2 + 1)
  | .subscribe | .wait | .unsubscribe => state

def items : Call → List Item
  | .pass items _ _ _ => items
  | .subscribe | .flush | .wait | .unsubscribe => []

/-- A pass that completed has written the whole text of its items. -/
def Whole : Call → Prop
  | .pass items written _ (.ok _) => written = (String.join (items.map Item.text)).toUTF8
  | _ => True

end Call

/-- No wait is made while octets are written and not flushed; `unflushed` are those
before the calls. -/
def FlushedAtWaits : ByteArray → List Call → Prop
  | _, [] => True
  | unflushed, .pass _ written _ _ :: calls => FlushedAtWaits (unflushed ++ written) calls
  | _, .flush :: calls => FlushedAtWaits .empty calls
  | unflushed, .wait :: calls => unflushed = .empty ∧ FlushedAtWaits unflushed calls
  | unflushed, .subscribe :: calls => FlushedAtWaits unflushed calls
  | unflushed, .unsubscribe :: calls => FlushedAtWaits unflushed calls

theorem flushedAtWaits_rounds {rest : List Call} (h : FlushedAtWaits .empty rest)
    (rounds : List Round) : FlushedAtWaits .empty (rounds.flatMap Round.calls ++ rest) := by
  induction rounds with
  | nil => exact h
  | cons round rounds ih => exact ⟨rfl, ih⟩

theorem flushedAtWaits_finish (finish : Finish) :
    FlushedAtWaits .empty (finish.calls ++ [.unsubscribe]) := by
  cases finish with
  | failed visit fault => trivial
  | waited visit offset fault => exact ⟨rfl, trivial⟩

theorem Round.ne_of_mem_calls (round : Round) {call : Call} (h : call ∈ round.calls) :
    call ≠ .subscribe ∧ call ≠ .unsubscribe := by
  simp only [calls, Visit.call, List.mem_cons, List.not_mem_nil, or_false] at h
  rcases h with rfl | rfl | rfl <;> simp

theorem Finish.ne_of_mem_calls (finish : Finish) {call : Call} (h : call ∈ finish.calls) :
    call ≠ .subscribe ∧ call ≠ .unsubscribe := by
  cases finish with
  | failed visit fault =>
    obtain rfl := List.mem_singleton.1 h
    simp [Visit.call]
  | waited visit offset fault => exact Round.ne_of_mem_calls ⟨visit, offset, .none⟩ h

theorem flatMap_items_calls (rounds : List Round) :
    (rounds.flatMap Round.calls).flatMap Call.items
      = rounds.flatMap fun round => round.visit.items := by
  rw [List.flatMap_assoc]
  congr 1
  funext round
  exact List.append_nil _

theorem Finish.flatMap_items_calls (finish : Finish) :
    finish.calls.flatMap Call.items = finish.visit.items := by
  cases finish <;> exact List.append_nil _

theorem flatMap_items_journal (rounds : List Round) (finish : Finish) :
    (Call.subscribe :: (rounds.flatMap Round.calls ++ finish.calls) ++ [Call.unsubscribe]).flatMap
        Call.items
      = (rounds.flatMap fun round => round.visit.items) ++ finish.visit.items := by
  rw [List.flatMap_append, List.flatMap_cons, List.flatMap_append, flatMap_items_calls,
    finish.flatMap_items_calls]
  exact List.append_nil _

/-- A run that went through rounds and then finished, from the streams and signals that
it was given. -/
structure Following.Brackets {Header Literal : Type} (run : Following)
    (decoder : Decoder Header Literal) (input : Input) (sink : Sink) (signals : List Signal)
    (rounds : List Round) (finish : Finish) : Prop where
  journal : run.journal =
    .subscribe :: (rounds.flatMap Round.calls ++ finish.calls) ++ [.unsubscribe]
  /-- The watcher is subscribed and unsubscribed nowhere else. -/
  between : ∀ call ∈ rounds.flatMap Round.calls ++ finish.calls,
    call ≠ .subscribe ∧ call ≠ .unsubscribe
  flushed : FlushedAtWaits .empty run.journal
  /-- The text of every completed pass was written before its flush. -/
  whole : ∀ call ∈ run.journal, call.Whole
  /-- The waits are answered by the signals, and the streams are left as the last pass
  left them. -/
  streams : ∃ rest last lastSink,
    signals = rounds.map (fun round => .modified round.change) ++ rest ∧
    decoder.Reaches input sink rounds last lastSink ∧ decoder.Ends last lastSink rest finish ∧
    run.input = (decoder.pass last lastSink).input ∧
    run.sink = finish.settle (decoder.pass last lastSink).sink
  /-- The sink took what the passes wrote, and nothing else, and was flushed for waits only. -/
  sink : (run.sink.written, run.sink.flushes)
    = run.journal.foldl Call.onSink (sink.written, sink.flushes)
  items : run.items = run.journal.flatMap Call.items
  closed : ∀ stats, run.outcome = .ok stats ↔
    ∃ visit offset, finish = .waited visit offset .closed ∧
      stats = Stats.ofItems run.items offset
  refused : ∀ fault, run.outcome = .error (.watch fault) ↔
    fault ≠ .closed ∧ ∃ visit offset, finish = .waited visit offset fault
  failed : ∀ fault, run.outcome = .error (.io fault) ↔ ∃ visit, finish = .failed visit fault

end Decode

namespace Decoder

variable {Header Literal : Type} {decoder : Decoder Header Literal} {input last : Input}
  {sink lastSink : Sink} {rounds : List Round} {finish : Finish}

theorem onSink_visit (input : Input) (sink : Sink) (ending : Except IoFault Nat) :
    Call.onSink (sink.written, sink.flushes)
        (((decoder.pass input sink).visit sink).call ending)
      = ((decoder.pass input sink).sink.written, (decoder.pass input sink).sink.flushes) := by
  obtain ⟨part, hcovers⟩ := decoder.exists_covers_pass input sink
  rw [hcovers.written_sink, hcovers.flushes_sink]
  rfl

theorem whole_visit {offset : Nat} (completed : (decoder.pass input sink).ending = .ok offset) :
    (((decoder.pass input sink).visit sink).call (.ok offset)).Whole := by
  obtain ⟨part, hcovers⟩ := decoder.exists_covers_pass input sink
  exact hcovers.written_of_completed completed

theorem Reaches.sink_eq (h : decoder.Reaches input sink rounds last lastSink) :
    (lastSink.written, lastSink.flushes)
      = (rounds.flatMap Round.calls).foldl Call.onSink (sink.written, sink.flushes) := by
  induction h with
  | start input sink => rfl
  | round change completed rest ih =>
    rw [List.flatMap_cons, List.foldl_append, Round.calls, List.foldl_cons, onSink_visit]
    exact ih

theorem Ends.sink_eq {signals : List Signal} (h : decoder.Ends input sink signals finish) :
    ((finish.settle (decoder.pass input sink).sink).written,
        (finish.settle (decoder.pass input sink).sink).flushes)
      = finish.calls.foldl Call.onSink (sink.written, sink.flushes) := by
  cases h with
  | failed =>
    rw [Finish.calls, List.foldl_cons, onSink_visit]
    rfl
  | waited =>
    rw [Finish.calls, List.foldl_cons, onSink_visit]
    rfl

theorem Reaches.whole (h : decoder.Reaches input sink rounds last lastSink) :
    ∀ call ∈ rounds.flatMap Round.calls, call.Whole := by
  induction h with
  | start input sink => exact fun call hcall => absurd hcall List.not_mem_nil
  | round change completed rest ih =>
    rw [List.flatMap_cons, List.forall_mem_append]
    refine ⟨?_, ih⟩
    simpa [Round.calls, Call.Whole] using whole_visit completed

theorem Ends.whole {signals : List Signal} (h : decoder.Ends input sink signals finish) :
    ∀ call ∈ finish.calls, call.Whole := by
  cases h with
  | failed => simp [Finish.calls, Visit.call, Call.Whole]
  | waited completed => simpa [Finish.calls, Call.Whole] using whole_visit completed

/-- The calls of a run are bracketed by those to the watcher, no wait is made before all
text is flushed, and a run ends as its last wait or its last pass does. -/
theorem follow_brackets (decoder : Decoder Header Literal) (input : Input) (sink : Sink)
    (signals : List Signal) :
    (∀ fault, decoder.follow input sink (some fault) signals
      = ⟨[.subscribe], input, sink, [], .error (.watch fault)⟩) ∧
    ∃ rounds finish, (decoder.follow input sink none signals).Brackets decoder input sink signals
      rounds finish := by
  refine ⟨fun fault => rfl, ?_⟩
  obtain ⟨rounds, rest, last, lastSink, finish, hsignals, hreaches, hends, hfollow⟩ :=
    decoder.exists_rounds_follow signals input sink
  refine ⟨rounds, finish, ?_⟩
  rw [hfollow]
  refine ⟨rfl, ?_, ?_, ?_, ⟨rest, last, lastSink, hsignals, hreaches, hends, rfl, rfl⟩, ?_,
    (flatMap_items_journal rounds finish).symm,
    fun stats => Finish.outcome_eq_ok, fun fault => Finish.outcome_eq_watch,
    fun fault => Finish.outcome_eq_io⟩
  · intro call hcall
    rcases List.mem_append.1 hcall with hround | hfinish
    · obtain ⟨round, -, hcall⟩ := List.mem_flatMap.1 hround
      exact round.ne_of_mem_calls hcall
    · exact finish.ne_of_mem_calls hfinish
  · have hrounds := flushedAtWaits_rounds (flushedAtWaits_finish finish) rounds
    rwa [← List.append_assoc] at hrounds
  · intro call hcall
    simp only [List.cons_append, List.mem_cons, List.mem_append, List.not_mem_nil,
      or_false] at hcall
    rcases hcall with rfl | (hround | hfinish) | rfl
    · trivial
    · exact hreaches.whole call hround
    · exact hends.whole call hfinish
    · trivial
  · rw [hends.sink_eq, hreaches.sink_eq, ← List.foldl_append]
    symm
    rw [List.foldl_append, List.foldl_cons]
    rfl

end Decoder
end FirmwareTrace
