import FirmwareTrace.Channel.Sink

/-! # Writing to a sink with limited room

A sink that is offered a text keeps as many of its octets as it has room for.
Offering texts one after the other is offering them as one, and nothing more is
kept after a text that did not fit.
-/
namespace FirmwareTrace.Channel.Sink

/-- There is room for the whole text. -/
def Fits (sink : Sink) (text : String) : Prop :=
  ∀ room, sink.room = some room → text.utf8ByteSize ≤ room

/-- The octets of a text that there is room for. -/
def share (sink : Sink) (text : String) : ByteArray :=
  text.toUTF8.extract 0 (sink.room.getD text.utf8ByteSize)

/-- The sink after it took its share of a text. -/
def offer (sink : Sink) (text : String) : Sink :=
  { sink with
    written := sink.written ++ sink.share text
    room := sink.room.map fun room => room - text.utf8ByteSize }

@[simp] theorem flushes_offer (sink : Sink) (text : String) :
    (sink.offer text).flushes = sink.flushes := rfl

@[simp] theorem written_offer (sink : Sink) (text : String) :
    (sink.offer text).written = sink.written ++ sink.share text := rfl

theorem fits_of_room_eq_none {sink : Sink} (h : sink.room = none) (text : String) :
    sink.Fits text := by
  simp [Fits, h]

theorem extract_of_size_le {octets : ByteArray} {count : Nat} (h : octets.size ≤ count) :
    octets.extract 0 count = octets := by
  apply ByteArray.ext
  simp
  omega

theorem share_of_fits {sink : Sink} {text : String} (h : sink.Fits text) :
    sink.share text = text.toUTF8 := by
  apply extract_of_size_le
  rw [String.toUTF8, String.size_toByteArray]
  cases hroom : sink.room with
  | none => exact Nat.le_refl _
  | some room => exact h room hroom

theorem written_offer_of_fits {sink : Sink} {text : String} (h : sink.Fits text) :
    (sink.offer text).written = sink.written ++ text.toUTF8 := by
  rw [written_offer, share_of_fits h]

theorem written_offer_of_room_eq_none {sink : Sink} (h : sink.room = none) (text : String) :
    (sink.offer text).written = sink.written ++ text.toUTF8 :=
  written_offer_of_fits (fits_of_room_eq_none h text)

theorem write_of_fits {sink : Sink} {text : String} (h : sink.Fits text) :
    sink.write text = (sink.offer text, true) := by
  have hshare := share_of_fits h
  unfold write offer
  cases hroom : sink.room with
  | none => simp [hshare]
  | some room => simp [hshare, h room hroom]

theorem write_of_not_fits {sink : Sink} {text : String} (h : ¬sink.Fits text) :
    sink.write text = (sink.offer text, false) := by
  unfold write offer share
  cases hroom : sink.room with
  | none => exact absurd (fits_of_room_eq_none hroom text) h
  | some room =>
    have hlt : ¬text.utf8ByteSize ≤ room := by simpa [Fits, hroom] using h
    simp [hlt, Nat.sub_eq_zero_of_le (Nat.le_of_not_le hlt)]

@[simp] theorem offer_empty (sink : Sink) : sink.offer "" = sink := by
  have hshare : sink.share "" = .empty := extract_of_size_le (Nat.zero_le _)
  cases sink with
  | mk written room flushes => cases room <;> simp [offer, hshare]

theorem offer_append (sink : Sink) (a b : String) :
    sink.offer (a ++ b) = (sink.offer a).offer b := by
  cases sink with
  | mk written room flushes =>
    cases room with
    | none =>
      simp [offer, share, ByteArray.append_assoc, extract_of_size_le]
    | some room =>
      simp [offer, share, ByteArray.append_assoc, ByteArray.extract_append, Nat.sub_sub]

theorem fits_append {sink : Sink} {a b : String} :
    sink.Fits (a ++ b) ↔ sink.Fits a ∧ (sink.offer a).Fits b := by
  cases hroom : sink.room with
  | none => simp [Fits, offer, hroom]
  | some room =>
    simp only [Fits, offer, hroom, Option.map_some, Option.some.injEq, forall_eq',
      String.utf8ByteSize_append]
    omega

theorem offer_append_of_not_fits {sink : Sink} {a : String} (h : ¬sink.Fits a) (b : String) :
    sink.offer (a ++ b) = sink.offer a := by
  cases hroom : sink.room with
  | none => exact absurd (fits_of_room_eq_none hroom a) h
  | some room =>
    have hlt : room < a.utf8ByteSize := by simpa [Fits, hroom] using h
    have hfull : room - a.utf8ByteSize = 0 := Nat.sub_eq_zero_of_le (Nat.le_of_lt hlt)
    simp [offer, share, hroom, ByteArray.extract_append, ← Nat.sub_sub, hfull]

end FirmwareTrace.Channel.Sink
