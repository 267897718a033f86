import FirmwareTrace.Channel.Input

/-! # Record window

The octets read from an input and not yet consumed by the decode loop.  Filling
drops what was consumed, then reads until enough octets are pending; each read
asks for as much as the window has room for.
-/
namespace FirmwareTrace.Decode
open Channel

structure Window where
  capacity : Nat
  buffer : List UInt8
  /-- How many octets at the front of the buffer are consumed. -/
  head : Nat
  /-- The input offset of the first octet that is not. -/
  offset : Nat
  deriving DecidableEq, Repr

/-- What filling a window came to; the outcome says whether enough octets are
pending. -/
structure Fill where
  window : Window
  input : Input
  outcome : Except IoFault Bool

namespace Window

/-- An empty window that holds two records of the largest size. -/
def ofOffset (offset maxRecordSize : Nat) : Window := ⟨2 * maxRecordSize, [], 0, offset⟩

def pending (window : Window) : List UInt8 := window.buffer.drop window.head

def consume (window : Window) (count : Nat) : Window :=
  let count := min count window.pending.length
  { window with head := window.head + count, offset := window.offset + count }

/-- Drops the consumed octets from the buffer. -/
def drain (window : Window) : Window := { window with buffer := window.pending, head := 0 }

/-- How many octets the next read asks for. -/
def room (window : Window) (needed : Nat) : Nat :=
  max window.capacity needed - window.buffer.length

@[simp] theorem pending_drain (window : Window) : window.drain.pending = window.pending := rfl

/-- Reads until the buffer holds `needed` octets, the input ends or a read fails;
an interrupted read is repeated. -/
def refill (needed : Nat) (window : Window) (input : Input) : Fill :=
  if needed ≤ window.buffer.length then ⟨window, input, .ok true⟩
  else
    match _h : input.read (window.room needed) with
    | (.octets [], input') => ⟨window, input', .ok false⟩
    | (.octets (octet :: more), input') =>
      refill needed { window with buffer := window.buffer ++ octet :: more } input'
    | (.interrupted, input') => refill needed window input'
    | (.failure fault, input') => ⟨window, input', .error fault⟩
termination_by needed - window.buffer.length + input.scriptLength
decreasing_by
  · rcases input.read_cases (window.room needed) with
      ⟨part, i, hr, -, -, hs⟩ | ⟨i, hr, -, -⟩ | ⟨f, i, hr, -⟩ <;> simp [hr] at _h
    obtain ⟨-, rfl⟩ := _h
    simp only [List.length_append, List.length_cons]
    omega
  · rcases input.read_cases (window.room needed) with
      ⟨part, i, hr, -, -, -⟩ | ⟨i, hr, -, hs⟩ | ⟨f, i, hr, -⟩ <;> simp [hr] at _h
    obtain rfl := _h
    omega

/-- Makes sure that `needed` octets are pending, reading only if they are not. -/
def fill (window : Window) (input : Input) (needed : Nat) : Fill :=
  if needed ≤ window.pending.length then ⟨window, input, .ok true⟩
  else window.drain.refill needed input

/-- Reading moves octets from the input to the buffer and loses none. -/
theorem refill_total (needed : Nat) (window : Window) (input : Input) (h : window.head = 0) :
    (window.refill needed input).window.pending.length
        + (window.refill needed input).input.unread
      = window.pending.length + input.unread := by
  fun_induction refill needed window input with
  | case1 => rfl
  | case2 window input _ input' hr =>
    rcases input.read_cases (window.room needed) with
      ⟨part, i, hi, hu, -, -⟩ | ⟨i, hi, hu, -⟩ | ⟨f, i, hi, hu⟩ <;> simp_all
  | case3 window input _ octet more input' hr ih =>
    rw [ih h]
    rcases input.read_cases (window.room needed) with
      ⟨part, i, hi, hu, -, -⟩ | ⟨i, hi, hu, -⟩ | ⟨f, i, hi, hu⟩ <;> simp_all [pending]
    omega
  | case4 window input _ input' hr ih =>
    rw [ih h]
    rcases input.read_cases (window.room needed) with
      ⟨part, i, hi, hu, -, -⟩ | ⟨i, hi, hu, -⟩ | ⟨f, i, hi, hu⟩ <;> simp_all
  | case5 window input _ fault input' hr =>
    rcases input.read_cases (window.room needed) with
      ⟨part, i, hi, hu, -, -⟩ | ⟨i, hi, hu, -⟩ | ⟨f, i, hi, hu⟩ <;> simp_all

theorem le_length_refill (needed : Nat) (window : Window) (input : Input) (h : window.head = 0)
    (hok : (window.refill needed input).outcome = .ok true) :
    needed ≤ (window.refill needed input).window.pending.length := by
  fun_induction refill needed window input with
  | case1 => simpa [pending, h] using ‹needed ≤ _›
  | case2 => simp at hok
  | case3 _ _ _ _ _ _ _ ih => exact ih h hok
  | case4 _ _ _ _ _ ih => exact ih h hok
  | case5 => simp at hok

theorem fill_total (window : Window) (input : Input) (needed : Nat) :
    (window.fill input needed).window.pending.length + (window.fill input needed).input.unread
      = window.pending.length + input.unread := by
  unfold fill
  split
  · rfl
  · rw [refill_total _ _ _ rfl, pending_drain]

theorem le_length_fill {window : Window} {input : Input} {needed : Nat}
    (hok : (window.fill input needed).outcome = .ok true) :
    needed ≤ (window.fill input needed).window.pending.length := by
  unfold fill at *
  split
  · assumption
  · rw [if_neg ‹_›] at hok
    exact le_length_refill _ _ _ rfl hok

theorem length_pending_consume (window : Window) (count : Nat) :
    (window.consume count).pending.length = window.pending.length - count := by
  simp only [consume, pending, List.length_drop]
  omega

end Window
end FirmwareTrace.Decode
