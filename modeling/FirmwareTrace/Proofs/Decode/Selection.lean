import FirmwareTrace.Proofs.Decode.Passing
import FirmwareTrace.Proofs.Libraries.FirstDefinition

/-! # The literals that a run selects

A run looks literals up where valid headers point, and shows nothing of why it finds none.
So decoders whose libraries agree wherever a valid header points take every turn alike,
`alike_turn`, and decode every input to the same text and the same statistics,
`decode_agrees`.
-/
namespace FirmwareTrace
open Channel Decode

theorem Libraries.toOption_resolve {Literal : Type} (libraries : Libraries Literal)
    (library : LibraryId) (key : RecordKey) :
    (libraries.resolve library key).toOption = libraries.literal? library key := by
  cases hliteral : libraries.literal? library key with
  | some literal =>
    rw [resolve_eq_ok_iff.2 hliteral]
    rfl
  | none =>
    cases hresolve : libraries.resolve library key with
    | error why => rfl
    | ok literal =>
      rw [resolve_eq_ok_iff.1 hresolve] at hliteral
      cases hliteral

namespace Decode

/-- All that shows of an item: not why a record is unknown. -/
def Item.shown (item : Item) : Item :=
  { item with outcome := item.outcome.mapError fun _ => .invalidHeader }

@[simp] theorem Item.size_shown (item : Item) : item.shown.size = item.size := rfl

@[simp] theorem Item.text_shown (item : Item) : item.shown.text = item.text := by
  obtain ⟨offset, size, outcome⟩ := item
  cases outcome <;> rfl

@[simp] theorem Item.isRendered_shown (item : Item) : item.shown.isRendered = item.isRendered := by
  obtain ⟨offset, size, outcome⟩ := item
  cases outcome <;> rfl

@[simp] theorem Item.isOverflow_shown (item : Item) : item.shown.isOverflow = item.isOverflow := by
  obtain ⟨offset, size, outcome⟩ := item
  cases outcome <;> rfl

theorem Stats.ofItems_shown (items : List Item) (endOffset : Nat) :
    Stats.ofItems (items.map Item.shown) endOffset = Stats.ofItems items endOffset := by
  simp [Stats.ofItems, List.countP_map, Function.comp_def]

def Progress.shown (progress : Progress) : Progress :=
  { progress with items := progress.items.map Item.shown }

/-- Turns that come to states which show the same. -/
inductive Turn.Alike : Turn → Turn → Prop
  | again {next next' : Progress} (h : next.shown = next'.shown) :
      Alike (.again next) (.again next')
  | ended {last last' : Progress} (h : last.shown = last'.shown) :
      Alike (.ended last) (.ended last')
  | failed {last last' : Progress} (h : last.shown = last'.shown) (fault : IoFault) :
      Alike (.failed last fault) (.failed last' fault)

end Decode

variable {Header Literal : Type} {format : RecordFormat Header Literal}
  {libraries others : Libraries Literal}

/-- Libraries that hold the same literal, if any, wherever a valid header points. -/
def RecordFormat.Agree (format : RecordFormat Header Literal)
    (libraries others : Libraries Literal) : Prop :=
  ∀ header, format.isValid header = true →
    libraries.literal? (format.libraryId header) (format.key header)
      = others.literal? (format.libraryId header) (format.key header)

namespace Decoder

section
variable (hagree : format.Agree libraries others)
include hagree

theorem literalFor_agrees (header : Header) :
    (literalFor ⟨format, libraries⟩ header).toOption
      = (literalFor ⟨format, others⟩ header).toOption := by
  unfold literalFor
  dsimp only
  split
  · rename_i hvalid
    rw [Libraries.toOption_resolve, Libraries.toOption_resolve, hagree header hvalid]
  · rfl

theorem shown_item (offset : Nat) (record : List UInt8) :
    (item ⟨format, libraries⟩ offset record).shown
      = (item ⟨format, others⟩ offset record).shown := by
  have hsame := literalFor_agrees hagree (format.parse (record.take format.headerSize))
  unfold item
  dsimp only
  cases hfirst : literalFor ⟨format, libraries⟩ (format.parse (record.take format.headerSize)) <;>
    cases hsecond : literalFor ⟨format, others⟩ (format.parse (record.take format.headerSize)) <;>
    rw [hfirst, hsecond] at hsame
  · rfl
  · cases hsame
  · cases hsame
  · rw [Option.some.inj hsame]

theorem alike_emit {progress other : Progress} (h : progress.shown = other.shown) (size : Nat) :
    (emit ⟨format, libraries⟩ progress size).Alike (emit ⟨format, others⟩ other size) := by
  obtain ⟨input, sink, window, items⟩ := progress
  obtain ⟨rfl, rfl, rfl, hitems⟩ := Progress.mk.inj h
  have hitem := shown_item hagree other.window.offset (other.window.pending.take size)
  have htext := congrArg Item.text hitem
  have hsize := congrArg Item.size hitem
  rw [Item.text_shown, Item.text_shown] at htext
  rw [Item.size_shown, Item.size_shown] at hsize
  have hsame (input : Input) (sink : Sink) (window : Window) :
      Progress.shown ⟨input, sink, window, item ⟨format, libraries⟩ _ _ :: items⟩
        = Progress.shown ⟨input, sink, window, item ⟨format, others⟩ _ _ :: other.items⟩ :=
    congrArg (Progress.mk _ _ _) (congrArg₂ List.cons hitem hitems)
  unfold emit
  dsimp only
  rw [htext, hsize]
  split
  · exact .again (hsame _ _ _)
  · exact .failed (hsame _ _ _) _

/-- The step: reads do not depend on the libraries, and the items show the same. -/
theorem alike_turn {progress other : Progress} (h : progress.shown = other.shown) :
    (turn ⟨format, libraries⟩ progress).Alike (turn ⟨format, others⟩ other) := by
  obtain ⟨input, sink, window, items⟩ := progress
  obtain ⟨rfl, rfl, rfl, hitems⟩ := Progress.mk.inj h
  have hsame (input : Input) (window : Window) :
      Progress.shown ⟨input, other.sink, window, items⟩
        = Progress.shown ⟨input, other.sink, window, other.items⟩ :=
    congrArg (Progress.mk _ _ _) hitems
  unfold turn
  dsimp only [Progress.after]
  split
  · exact .failed (hsame _ _) _
  · exact .ended (hsame _ _)
  · split
    · exact .failed (hsame _ _) _
    · exact .ended (hsame _ _)
    · exact alike_emit hagree (hsame _ _) _

/-- The run, along its turns. -/
theorem shown_run {progress other : Progress} (h : progress.shown = other.shown) :
    (run ⟨format, libraries⟩ progress).1.shown = (run ⟨format, others⟩ other).1.shown ∧
      (run ⟨format, libraries⟩ progress).2 = (run ⟨format, others⟩ other).2 := by
  have halike := alike_turn hagree h
  generalize hother : turn ⟨format, others⟩ other = turn' at halike
  fun_induction run ⟨format, libraries⟩ progress generalizing other turn' with
  | case1 progress next hturn hlt ih =>
    rw [hturn] at halike
    cases halike with
    | again hnext =>
      rw [run_of_again hother]
      exact ih hnext _ rfl (alike_turn hagree hnext)
  | case2 progress last hturn =>
    rw [hturn] at halike
    cases halike with
    | ended hlast =>
      have hstop : turn ⟨format, others⟩ other = .stop none _ := hother
      rw [run_of_stop hstop]
      exact ⟨hlast, rfl⟩
  | case3 progress last fault hturn =>
    rw [hturn] at halike
    cases halike with
    | failed hlast =>
      rw [run_of_failed hother]
      exact ⟨hlast, rfl⟩

theorem shown_pass (input : Input) (sink : Sink) :
    ∃ mid written seen ending items others',
      pass ⟨format, libraries⟩ input sink = ⟨mid, written, items, seen, ending⟩ ∧
      pass ⟨format, others⟩ input sink = ⟨mid, written, others', seen, ending⟩ ∧
      items.map Item.shown = others'.map Item.shown := by
  let start : Progress := ⟨input, sink, .ofOffset input.position format.maxRecordSize, []⟩
  obtain ⟨hlast, hfault⟩ := shown_run hagree (Eq.refl start.shown)
  unfold pass
  dsimp only
  rw [← hfault]
  generalize run ⟨format, libraries⟩ _ = first at hlast ⊢
  generalize (run ⟨format, others⟩ _).1 = second at hlast ⊢
  obtain ⟨⟨mid, written, window, items⟩, fault⟩ := first
  obtain ⟨rfl, rfl, rfl, hitems⟩ := Progress.mk.inj hlast
  have hreverse : items.reverse.map Item.shown = second.items.reverse.map Item.shown := by
    rw [List.map_reverse, List.map_reverse]
    exact congrArg List.reverse hitems
  cases fault <;> exact ⟨_, _, _, _, _, _, rfl, rfl, hreverse⟩

/-- The same text, the same statistics, and the same items but for why a record is unknown. -/
theorem decode_agrees (input : Input) (sink : Sink) :
    let first := decode ⟨format, libraries⟩ input sink
    let second := decode ⟨format, others⟩ input sink
    first.input = second.input ∧ first.sink = second.sink ∧ first.outcome = second.outcome ∧
      first.items.map Item.shown = second.items.map Item.shown := by
  obtain ⟨mid, written, seen, ending, items, items', hfirst, hsecond, hitems⟩ :=
    shown_pass hagree input sink
  unfold decode
  dsimp only
  rw [hfirst, hsecond]
  cases ending with
  | error fault => exact ⟨rfl, rfl, rfl, hitems⟩
  | ok offset =>
    refine ⟨rfl, rfl, ?_, hitems⟩
    dsimp only
    rw [← Stats.ofItems_shown items, hitems, Stats.ofItems_shown]

end
end Decoder
end FirmwareTrace
