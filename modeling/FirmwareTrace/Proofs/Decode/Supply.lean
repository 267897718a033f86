import FirmwareTrace.Proofs.Decode.LineStructure
import FirmwareTrace.Proofs.Decode.Storage

/-! # Windows in use

A window is filled and consumed in any order.  Whatever its reads come to, the octets pending in
it are those of the input from its offset up to the position of the input, and the array behind it
is neither outgrown nor moved, `window_sound`.  A run of the decode loop is one such use of its
window, `exists_uses_run`.
-/
namespace FirmwareTrace
open Channel

namespace Decode

/-- What is done with a window. -/
inductive Use
  | fill (needed : Nat)
  | consume (count : Nat)
  deriving DecidableEq, Repr

/-- No more octets are asked for than the largest record has. -/
def Use.Within (limit : Nat) : Use → Prop
  | .fill needed => needed ≤ limit
  | .consume _ => True

/-- A window and the input that fills it. -/
structure Supply where
  window : Window
  input : Input

namespace Supply

def ofInput (limit : Nat) (input : Input) : Supply := ⟨.ofOffset input.position limit, input⟩

def use (supply : Supply) : Use → Supply
  | .fill needed =>
    let fill := supply.window.fill supply.input needed
    ⟨fill.window, fill.input⟩
  | .consume count => { supply with window := supply.window.consume count }

def useAll (supply : Supply) (uses : List Use) : Supply := uses.foldl use supply

end Supply

/-- A window that lies in an array, the input that fills it, and the requests made so far. -/
structure Stored where
  storage : Storage
  head : Nat
  offset : Nat
  input : Input
  requests : List Request

namespace Stored

def ofInput (limit : Nat) (input : Input) : Stored :=
  ⟨⟨[], 2 * limit, 0⟩, 0, input.position, input, []⟩

def window (stored : Stored) : Window :=
  ⟨stored.storage.capacity, stored.storage.octets, stored.head, stored.offset⟩

def supply (stored : Stored) : Supply := ⟨stored.window, stored.input⟩

/-- Makes sure that `needed` octets are pending; says whether they are. -/
def fill (stored : Stored) (needed : Nat) : Stored × Except IoFault Bool :=
  if needed ≤ stored.window.pending.length then (stored, .ok true)
  else
    let refilled := (stored.storage.drain stored.head).refill needed stored.input
    (⟨refilled.storage, 0, stored.offset, refilled.input, stored.requests ++ refilled.requests⟩,
      refilled.outcome)

def consume (stored : Stored) (count : Nat) : Stored :=
  let count := min count stored.window.pending.length
  { stored with head := stored.head + count, offset := stored.offset + count }

def use (stored : Stored) : Use → Stored
  | .fill needed => (stored.fill needed).1
  | .consume count => stored.consume count

def useAll (stored : Stored) (uses : List Use) : Stored := uses.foldl use stored

/-- The array has its first capacity and place, and holds what the input had before its
position. -/
structure Sound (limit : Nat) (stored : Stored) : Prop where
  capacity : stored.storage.capacity = 2 * limit
  moves : stored.storage.moves = 0
  length : stored.storage.octets.length ≤ 2 * limit
  spans : stored.input.Spans stored.offset stored.window.pending
  requests : ∀ request ∈ stored.requests, request.Proper (2 * limit)

/-- What a fill does: it fills the window of the array, tells whether enough octets are pending,
and adds what its requests delivered to those that were. -/
structure Fills (needed : Nat) (stored : Stored) (filled : Stored × Except IoFault Bool) :
    Prop where
  window : stored.window.fill stored.input needed = ⟨filled.1.window, filled.1.input, filled.2⟩
  enough : filled.2 = .ok true ↔ needed ≤ filled.1.window.pending.length
  gained : ∃ requests, filled.1.requests = stored.requests ++ requests ∧
    filled.1.window.pending = stored.window.pending ++ requests.flatMap Request.delivered ∧
    Request.Answered requests filled.2

variable {limit needed : Nat} {stored : Stored}

theorem sound_ofInput (limit : Nat) {input : Input} (hinput : input.Coherent) :
    (ofInput limit input).Sound limit where
  capacity := rfl
  moves := rfl
  length := Nat.zero_le _
  spans := Input.spans_nil hinput
  requests := by simp [ofInput]

theorem Sound.consume (h : stored.Sound limit) (count : Nat) :
    (stored.consume count).Sound limit where
  capacity := h.capacity
  moves := h.moves
  length := h.length
  spans := by
    have hpending : (stored.consume count).window.pending
        = stored.window.pending.drop (min count stored.window.pending.length) :=
      List.drop_drop.symm
    rw [hpending]
    exact h.spans.drop (Nat.min_le_right _ _)
  requests := h.requests

/-- The step: a fill leaves the array sound, and does what it should. -/
theorem Sound.fill (h : stored.Sound limit) (hneeded : needed ≤ limit) :
    (stored.fill needed).1.Sound limit ∧ Fills needed stored (stored.fill needed) := by
  unfold Stored.fill
  split
  · next hle =>
    refine ⟨h, ?_, by simp [hle], [], by simp, by simp, .enough⟩
    rw [Window.fill, if_pos hle]
  · next hlt =>
    -- only the octets in front of the pending ones are drained, so the same are pending
    have hcapacity : (stored.storage.drain stored.head).capacity = 2 * limit := h.capacity
    have hneeded' : needed ≤ (stored.storage.drain stored.head).capacity := by omega
    have hrefills := Storage.refills_refill needed (stored.storage.drain stored.head) stored.input
    generalize (stored.storage.drain stored.head).refill needed stored.input = refilled at hrefills
    have hstorage := hrefills.storage_eq hneeded'
    have hplace : refilled.storage.capacity = 2 * limit ∧ refilled.storage.moves = 0 := by
      rw [hstorage]
      exact ⟨hcapacity, h.moves⟩
    have hlength : (stored.storage.drain stored.head).octets.length ≤ 2 * limit := by
      refine Nat.le_trans ?_ h.length
      simp [Storage.drain]
    refine ⟨⟨hplace.1, hplace.2, ?_, ?_, ?_⟩, ?_, ?_, refilled.requests, rfl, ?_, hrefills.answered⟩
    · rw [← hcapacity]
      exact hrefills.length_le hneeded' (hcapacity ▸ hlength)
    · exact hrefills.spans hneeded' h.spans
    · rw [List.forall_mem_append, ← hcapacity]
      exact ⟨hcapacity ▸ h.requests, hrefills.proper hneeded' h.moves h.spans⟩
    · rw [Window.fill, if_neg hlt]
      refine (hrefills.refill_eq hneeded' stored.offset).trans ?_
      rw [hcapacity, ← hplace.1]
      rfl
    · exact hrefills.outcome_eq_iff hneeded'
    · exact congrArg Storage.octets hstorage

theorem Sound.use (h : stored.Sound limit) {use : Use} (huse : use.Within limit) :
    (stored.use use).Sound limit ∧ (stored.use use).supply = stored.supply.use use := by
  cases use with
  | fill needed =>
    obtain ⟨hsound, hfills⟩ := h.fill huse
    refine ⟨hsound, ?_⟩
    rw [Supply.use]
    change _ = Supply.mk (stored.window.fill stored.input needed).window
      (stored.window.fill stored.input needed).input
    rw [hfills.window]
    rfl
  | consume count => exact ⟨h.consume count, rfl⟩

/-- The run, use by use. -/
theorem Sound.useAll (h : stored.Sound limit) {uses : List Use}
    (huses : ∀ use ∈ uses, use.Within limit) :
    (stored.useAll uses).Sound limit ∧
      (stored.useAll uses).supply = stored.supply.useAll uses := by
  induction uses generalizing stored with
  | nil => exact ⟨h, rfl⟩
  | cons use uses ih =>
    rw [List.forall_mem_cons] at huses
    obtain ⟨hsound, hsupply⟩ := h.use huses.1
    have hrest := ih hsound huses.2
    rw [hsupply] at hrest
    exact hrest

end Stored

/-- What is pending in a window that is filled and consumed in any order, over any reads: the
octets of the input from the offset of the window up to the position of the input.  The array
behind it is neither outgrown nor moved, each request asks for all the room there is, which is
some, and a fill tells whether enough octets are pending. -/
theorem window_sound (limit : Nat) {input : Input} (hinput : input.Coherent) {uses : List Use}
    (huses : ∀ use ∈ uses, use.Within limit) :
    let stored := (Stored.ofInput limit input).useAll uses
    let supply := (Supply.ofInput limit input).useAll uses
    stored.supply = supply ∧
      supply.window.pending = (supply.input.octets.drop supply.window.offset).take
        (supply.input.position - supply.window.offset) ∧
      supply.window.offset + supply.window.pending.length = supply.input.position ∧
      stored.Sound limit ∧
      ∀ needed ≤ limit, Stored.Fills needed stored (stored.fill needed) := by
  intro stored supply
  obtain ⟨hsound, hsupply⟩ := (Stored.sound_ofInput limit hinput).useAll huses
  have hspans : supply.input.Spans supply.window.offset supply.window.pending := by
    have hsupply' : stored.supply = supply := hsupply
    rw [← hsupply']
    exact hsound.spans
  exact ⟨hsupply, hspans.eq, hspans.position, hsound, fun needed hneeded => (hsound.fill hneeded).2⟩

/-- Reads that are cut short, interrupted and failed, below the largest record. -/
def brokenInput : Input :=
  .direct ⟨⟨#[1, 2, 3, 4, 5, 6, 7, 8, 9, 10]⟩, 1,
    [.upTo 3, .interrupted, .upTo 1, .failure (.other "scripted failure")]⟩

def brokenUses : List Use := [.fill 2, .consume 2, .fill 4, .fill 4, .consume 1]

theorem window_sound_broken :
    let stored := (Stored.ofInput 4 brokenInput).useAll brokenUses
    let supply := (Supply.ofInput 4 brokenInput).useAll brokenUses
    brokenInput.Coherent ∧ (∀ use ∈ brokenUses, use.Within 4) ∧ stored.supply = supply ∧
      supply.window.pending = [5, 6, 7, 8, 9, 10] ∧ supply.window.offset = 4 ∧
      supply.input.position = 10 ∧ stored.requests.map Request.room = [8, 7, 7, 6, 6] ∧
      stored.Sound 4 := by
  intro stored supply
  have huses : ∀ use ∈ brokenUses, use.Within 4 := by simp [brokenUses, Use.Within]
  obtain ⟨hsupply, -, -, hsound, -⟩ :=
    window_sound 4 (Input.coherent_direct _ : brokenInput.Coherent) huses
  exact ⟨Input.coherent_direct _, huses, hsupply, by decide +kernel, by decide +kernel,
    by decide +kernel, by decide +kernel, hsound⟩

end Decode

namespace Decoder

open Decode

variable {Header Literal : Type} (decoder : Decoder Header Literal)

/-- A turn asks for a header and for the record it starts, and consumes from what it got. -/
theorem exists_uses_turn (progress : Progress) :
    ∃ uses : List Use, (∀ use ∈ uses, use.Within decoder.format.maxRecordSize) ∧
      Supply.mk (decoder.turn progress).progress.window (decoder.turn progress).progress.input
        = (Supply.mk progress.window progress.input).useAll uses := by
  have hrecord (first : UInt8) : decoder.format.recordSize first ≤ decoder.format.maxRecordSize :=
    decoder.format.recordSize_le first
  have hheader : decoder.format.headerSize ≤ decoder.format.maxRecordSize :=
    Nat.le_trans (decoder.format.headerSize_le_recordSize 0) (hrecord 0)
  unfold turn
  dsimp only
  split
  case h_1 | h_2 =>
    exact ⟨[.fill decoder.format.headerSize], by simpa [Use.Within] using hheader, rfl⟩
  case h_3 =>
    have hboth (first : UInt8) : ∀ use ∈ [Use.fill decoder.format.headerSize,
        .fill (decoder.format.recordSize first)], use.Within decoder.format.maxRecordSize := by
      simp [Use.Within, hheader, hrecord]
    split
    case h_1 | h_2 => exact ⟨_, hboth _, rfl⟩
    case h_3 =>
      unfold emit
      dsimp only
      split
      · exact ⟨_ ++ [.consume _], List.forall_mem_append.2 ⟨hboth _, by simp [Use.Within]⟩, rfl⟩
      · exact ⟨_, hboth _, rfl⟩

/-- The run, along its turns. -/
theorem exists_uses_run (progress : Progress) :
    ∃ uses : List Use, (∀ use ∈ uses, use.Within decoder.format.maxRecordSize) ∧
      Supply.mk (decoder.run progress).1.window (decoder.run progress).1.input
        = (Supply.mk progress.window progress.input).useAll uses := by
  fun_induction run decoder progress with
  | case1 progress next hturn hlt ih =>
    obtain ⟨front, hfront, hnext⟩ := decoder.exists_uses_turn progress
    obtain ⟨back, hback, hlast⟩ := ih
    rw [hturn] at hnext
    refine ⟨front ++ back, List.forall_mem_append.2 ⟨hfront, hback⟩, ?_⟩
    rw [Supply.useAll, List.foldl_append]
    exact hlast.trans (congrArg (Supply.useAll · back) hnext)
  | case2 progress last hturn =>
    have huses := decoder.exists_uses_turn progress
    rwa [hturn] at huses
  | case3 progress last fault hturn =>
    have huses := decoder.exists_uses_turn progress
    rwa [hturn] at huses

end Decoder
end FirmwareTrace
