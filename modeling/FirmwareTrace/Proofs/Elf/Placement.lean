import FirmwareTrace.Elf.Container
import Mathlib.Data.List.Basic

/-! # Octets in their place

What `StandsAt` an offset of a file is what is read there: a stretch of octets,
`slice?_of_standsAt`, a number, `number?_of_standsAt`, and each of the records of equal length
that stand one behind the other, `StandsAt.getElem?`.
-/
namespace FirmwareTrace

namespace Bytes

/-- The part of the whole that starts at the offset. -/
def StandsAt (whole : List UInt8) (offset : Nat) (part : List UInt8) : Prop :=
  ∃ front back, whole = front ++ part ++ back ∧ front.length = offset

theorem standsAt_zero (part back : List UInt8) : StandsAt (part ++ back) 0 part :=
  ⟨[], back, rfl, rfl⟩

namespace StandsAt

variable {whole part first second : List UInt8} {offset : Nat}

theorem length_le (h : StandsAt whole offset part) : offset + part.length ≤ whole.length := by
  obtain ⟨front, back, rfl, rfl⟩ := h
  simp

theorem drop_eq (h : StandsAt whole offset part) :
    ∃ back, whole.drop offset = part ++ back := by
  obtain ⟨front, back, rfl, rfl⟩ := h
  exact ⟨back, by rw [List.append_assoc, List.drop_left]⟩

theorem take_drop (h : StandsAt whole offset part) :
    (whole.drop offset).take part.length = part := by
  obtain ⟨back, hback⟩ := h.drop_eq
  rw [hback, List.take_left]

theorem left (h : StandsAt whole offset (first ++ second)) : StandsAt whole offset first := by
  obtain ⟨front, back, rfl, rfl⟩ := h
  exact ⟨front, second ++ back, by simp only [List.append_assoc], rfl⟩

theorem right (h : StandsAt whole offset (first ++ second)) :
    StandsAt whole (offset + first.length) second := by
  obtain ⟨front, back, rfl, rfl⟩ := h
  exact ⟨front ++ first, back, by simp only [List.append_assoc], List.length_append⟩

theorem after (front : List UInt8) (h : StandsAt whole offset part) :
    StandsAt (front ++ whole) (front.length + offset) part := by
  obtain ⟨before, back, rfl, rfl⟩ := h
  exact ⟨front ++ before, back, by simp only [List.append_assoc], List.length_append⟩

theorem drop (h : StandsAt whole offset part) {count : Nat} (hcount : count ≤ part.length) :
    StandsAt whole (offset + count) (part.drop count) := by
  rw [← List.take_append_drop count part] at h
  simpa [hcount] using h.right

/-- Records of one length stand at the multiples of that length. -/
theorem getElem? {α : Type} {encode : α → List UInt8} {width : Nat}
    (hwidth : ∀ a, (encode a).length = width) {records : List α}
    (h : StandsAt whole offset (records.flatMap encode)) {i : Nat} {record : α}
    (hi : records[i]? = some record) : StandsAt whole (offset + i * width) (encode record) := by
  induction records generalizing offset i with
  | nil => simp at hi
  | cons head rest ih =>
    rw [List.flatMap_cons] at h
    cases i with
    | zero =>
      obtain rfl := Option.some.inj hi
      simpa using h.left
    | succ i =>
      have hrest := ih (hwidth head ▸ h.right) hi
      rwa [Nat.add_assoc, Nat.add_comm width, ← Nat.succ_mul] at hrest

end StandsAt

variable {bytes : ByteArray} {offset : Nat} {part : List UInt8}

theorem slice?_of_standsAt (h : StandsAt (octets bytes) offset part) :
    slice? bytes offset part.length = some part := by
  refine slice?_eq_some_iff.2 ⟨h.length_le, ?_⟩
  rw [stretch_eq, h.take_drop]

theorem number?_of_standsAt {width n : Nat}
    (h : StandsAt (octets bytes) offset (toLittleEndian width n)) (hn : n < 1 <<< (8 * width)) :
    number? bytes offset width = some n := by
  have hslice := slice?_of_standsAt h
  rw [length_toLittleEndian] at hslice
  rw [number?, hslice, Option.map_some, ofLittleEndian_toLittleEndian_of_lt width hn]

theorem octets_mk (part : List UInt8) : octets ⟨⟨part⟩⟩ = part := rfl

theorem extract_of_standsAt (h : StandsAt (octets bytes) offset part) :
    bytes.extract offset (offset + part.length) = ⟨⟨part⟩⟩ := by
  apply ByteArray.ext
  apply Array.toList_inj.1
  have hstretch := stretch_eq bytes offset part.length
  rw [h.take_drop] at hstretch
  exact hstretch

end Bytes

open Bytes in
theorem Elf.Section.data?_of_standsAt {sec : Section} {bytes : ByteArray} {part : List UInt8}
    (hkind : sec.kind ≠ noBitsKind) (hsize : sec.size = part.length)
    (h : StandsAt (octets bytes) sec.offset part) : sec.data? bytes = some ⟨⟨part⟩⟩ := by
  have hinside : inside bytes sec.offset part.length = true := decide_eq_true h.length_le
  rw [data?, if_neg hkind, hsize, if_pos hinside, extract_of_standsAt h]

/-- Reading at all positions in turn gives what is read at each. -/
theorem mapM_range_of_getElem? {α : Type} {f : Nat → Option α} {xs : List α}
    (h : ∀ i x, xs[i]? = some x → f i = some x) : (List.range xs.length).mapM f = some xs := by
  induction xs generalizing f with
  | nil => rfl
  | cons x xs ih =>
    have hrest : (List.range xs.length).mapM (fun i => f (i + 1)) = some xs :=
      ih fun i y hy => h (i + 1) y hy
    rw [List.length_cons, List.range_succ_eq_map, List.mapM_cons, h 0 x rfl, List.mapM_map]
    change ((List.range xs.length).mapM (fun i => f (i + 1))).bind _ = _
    rw [hrest]
    rfl

theorem filterMap_range_of_getElem? {α : Type} {f : Nat → Option α} {xs : List α}
    (h : ∀ i x, xs[i]? = some x → f i = some x) : (List.range xs.length).filterMap f = xs := by
  induction xs generalizing f with
  | nil => rfl
  | cons x xs ih =>
    have hrest : (List.range xs.length).filterMap (fun i => f (i + 1)) = xs :=
      ih fun i y hy => h (i + 1) y hy
    rw [List.length_cons, List.range_succ_eq_map, List.filterMap_cons_some (h 0 x rfl),
      List.filterMap_map]
    exact congrArg (x :: ·) hrest

end FirmwareTrace
