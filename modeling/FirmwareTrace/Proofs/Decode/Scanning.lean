import FirmwareTrace.Decode.Scan
import Mathlib.Data.List.Infix

/-! # The plain scan, piece by piece

A record that is complete stays so when more octets follow, hence a scan of a
prefix is never taken back: it goes on from the octets it left.
-/
namespace FirmwareTrace

namespace RecordFormat

variable {Header Literal : Type} (format : RecordFormat Header Literal)

theorem headD_append {front : List UInt8} (h : 0 < front.length) (back : List UInt8) :
    (front ++ back).headD 0 = front.headD 0 := by
  cases front with
  | nil => cases h
  | cons => rfl

theorem recordSize_pos (first : UInt8) : 0 < format.recordSize first :=
  Nat.lt_of_lt_of_le (by decide) (format.wordSize_le_recordSize first)

theorem record?_of_le {octets : List UInt8}
    (h : format.recordSize (octets.headD 0) ≤ octets.length) :
    format.record? octets = some (octets.take (format.recordSize (octets.headD 0))) := by
  cases octets with
  | nil => exact absurd h (Nat.not_le.2 (format.recordSize_pos _))
  | cons first more =>
    rw [List.headD_cons] at h
    simp only [record?, List.length_take, Nat.min_eq_left h, Nat.lt_irrefl, if_false,
      List.headD_cons]

theorem record?_of_lt {octets : List UInt8}
    (h : octets.length < format.recordSize (octets.headD 0)) : format.record? octets = none := by
  cases octets with
  | nil => rfl
  | cons first more =>
    rw [List.headD_cons] at h
    simp only [record?, List.length_take, Nat.min_eq_right (Nat.le_of_lt h), h, if_true]

theorem record?_eq_some {octets record : List UInt8} (h : format.record? octets = some record) :
    format.recordSize (octets.headD 0) ≤ octets.length ∧
      record = octets.take (format.recordSize (octets.headD 0)) := by
  rcases Nat.lt_or_ge octets.length (format.recordSize (octets.headD 0)) with hlt | hle
  · rw [format.record?_of_lt hlt] at h
    cases h
  · rw [format.record?_of_le hle] at h
    exact ⟨hle, (Option.some.inj h).symm⟩

theorem record?_append {front record : List UInt8} (h : format.record? front = some record)
    (back : List UInt8) : format.record? (front ++ back) = some record := by
  obtain ⟨hle, rfl⟩ := format.record?_eq_some h
  have hfirst := headD_append (Nat.lt_of_lt_of_le (format.recordSize_pos _) hle) back
  rw [← hfirst] at hle ⊢
  rw [format.record?_of_le, List.take_append_of_le_length hle]
  rw [List.length_append]
  exact Nat.le_add_right_of_le hle

end RecordFormat

namespace Decode.Scan

/-- The scan that found some items before the ones it has. -/
def prepend (items : List Item) (scan : Scan) : Scan := ⟨items ++ scan.items, scan.endOffset⟩

@[simp] theorem items_prepend (items : List Item) (scan : Scan) :
    (scan.prepend items).items = items ++ scan.items := rfl

@[simp] theorem endOffset_prepend (items : List Item) (scan : Scan) :
    (scan.prepend items).endOffset = scan.endOffset := rfl

theorem prepend_prepend (a b : List Item) (scan : Scan) :
    (scan.prepend b).prepend a = scan.prepend (a ++ b) := by
  simp [prepend]

/-- What a pass writes for the items of the scan. -/
def text (scan : Scan) : String := String.join (scan.items.map Item.text)

theorem text_prepend (items : List Item) (scan : Scan) :
    (scan.prepend items).text = String.join (items.map Item.text) ++ scan.text := by
  simp [text]

theorem text_nil (offset : Nat) : (mk [] offset).text = "" := rfl

end Decode.Scan

namespace Decoder

variable {Header Literal : Type} (decoder : Decoder Header Literal)
open Decode

theorem item_size_le {octets record : List UInt8} (offset : Nat)
    (h : decoder.format.record? octets = some record) :
    (decoder.item offset record).size ≤ octets.length := by
  obtain ⟨hword, hle⟩ := decoder.format.wordSize_le_of_record? h
  unfold item
  dsimp only
  split
  · exact hle
  · exact Nat.le_trans hword hle

theorem scan_of_none {octets : List UInt8} (offset : Nat)
    (h : decoder.format.record? octets = none) : decoder.scan offset octets = ⟨[], offset⟩ := by
  rw [scan]
  split
  · rfl
  · rename_i heq
    rw [h] at heq
    cases heq

theorem scan_of_some {octets record : List UInt8} (offset : Nat)
    (h : decoder.format.record? octets = some record) :
    decoder.scan offset octets =
      (decoder.scan (offset + (decoder.item offset record).size)
        (octets.drop (decoder.item offset record).size)).prepend [decoder.item offset record] := by
  rw [scan]
  split
  · rename_i heq
    rw [h] at heq
    cases heq
  · rename_i found heq
    rw [h] at heq
    obtain rfl := Option.some.inj heq
    rfl

/-- The induction on the records of a scan. -/
theorem scan_induction {motive : Nat → List UInt8 → Prop}
    (none : ∀ offset octets, decoder.format.record? octets = none → motive offset octets)
    (some : ∀ offset octets record, decoder.format.record? octets = some record →
      motive (offset + (decoder.item offset record).size)
        (octets.drop (decoder.item offset record).size) → motive offset octets)
    (offset : Nat) (octets : List UInt8) : motive offset octets := by
  fun_induction scan decoder offset octets with
  | case1 offset octets h => exact none offset octets h
  | case2 offset octets record h item rest ih => exact some offset octets record h ih

theorem le_endOffset_scan (offset : Nat) (octets : List UInt8) :
    offset ≤ (decoder.scan offset octets).endOffset := by
  induction offset, octets using decoder.scan_induction with
  | none offset octets h => rw [decoder.scan_of_none offset h]
  | some offset octets record h ih =>
    rw [decoder.scan_of_some offset h, Scan.endOffset_prepend]
    exact Nat.le_trans (Nat.le_add_right _ _) ih

theorem endOffset_scan_le (offset : Nat) (octets : List UInt8) :
    (decoder.scan offset octets).endOffset ≤ offset + octets.length := by
  induction offset, octets using decoder.scan_induction with
  | none offset octets h =>
    rw [decoder.scan_of_none offset h]
    exact Nat.le_add_right _ _
  | some offset octets record h ih =>
    have hsize := decoder.item_size_le offset h
    rw [List.length_drop] at ih
    rw [decoder.scan_of_some offset h, Scan.endOffset_prepend]
    omega

/-- A scan goes on from the octets that a scan of the front left. -/
theorem scan_append (offset : Nat) (front back : List UInt8) :
    decoder.scan offset (front ++ back) =
      (decoder.scan (decoder.scan offset front).endOffset
        (front.drop ((decoder.scan offset front).endOffset - offset) ++ back)).prepend
          (decoder.scan offset front).items := by
  induction offset, front using decoder.scan_induction with
  | none offset front h =>
    rw [decoder.scan_of_none offset h, Nat.sub_self, List.drop_zero]
    rfl
  | some offset front record h ih =>
    have hsize := decoder.item_size_le offset h
    have hend := decoder.le_endOffset_scan (offset + (decoder.item offset record).size)
      (front.drop (decoder.item offset record).size)
    rw [decoder.scan_of_some offset (decoder.format.record?_append h back),
      List.drop_append_of_le_length hsize, ih, decoder.scan_of_some offset h,
      Scan.prepend_prepend, Scan.endOffset_prepend, Scan.items_prepend, List.drop_drop]
    congr 4
    omega

end Decoder
end FirmwareTrace
