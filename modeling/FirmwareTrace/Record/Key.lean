import FirmwareTrace.Text.Numeral

/-! # Record keys

A key names one literal of a library.  Records with source locations use the
file id in the low half and the line in the high half; records with entry ids
use the low half alone.
-/
namespace FirmwareTrace

abbrev LibraryId := UInt32

structure RecordKey where
  low : UInt32
  high : UInt32
  deriving DecidableEq, Repr, Inhabited

namespace RecordKey

def ofLocation (fileId line : UInt32) : RecordKey := ⟨fileId, line⟩

def ofEntry (entryId : UInt32) : RecordKey := ⟨entryId, 0⟩

def fileId (key : RecordKey) : UInt32 := key.low

def line (key : RecordKey) : UInt32 := key.high

/-- The key as one 64-bit number. -/
def raw (key : RecordKey) : Nat := key.low.toNat + key.high.toNat <<< 32

theorem raw_lt (key : RecordKey) : key.raw < 0x10000000000000000 := by
  have := key.low.toNat_lt
  have := key.high.toNat_lt
  unfold raw
  omega

theorem raw_injective {a b : RecordKey} (h : a.raw = b.raw) : a = b := by
  have ha := a.low.toNat_lt
  have hb := b.low.toNat_lt
  unfold raw at h
  have hlow : a.low = b.low := UInt32.toNat_inj.mp (by omega)
  have hhigh : a.high = b.high := UInt32.toNat_inj.mp (by omega)
  cases a
  cases b
  simp_all

theorem raw_of_high {key : RecordKey} (h : key.high.toNat = 0) : key.raw = key.low.toNat := by
  unfold raw
  rw [h, Nat.zero_shiftLeft, Nat.add_zero]

theorem raw_ofEntry (entryId : UInt32) : (ofEntry entryId).raw = entryId.toNat :=
  raw_of_high UInt32.toNat_zero

/-- The raw key in hexadecimal. -/
def display (key : RecordKey) : String := "0x" ++ String.ofList (Numeral.hex key.raw)

end RecordKey
end FirmwareTrace
