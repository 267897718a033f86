/-! # Octet strings

Little-endian numbers over lists of octets, and the one primitive that reads a
stretch of a byte array.  Every reader of a record, a header or an image goes
through `slice?`, so a read outside the array is always visible as `none`.
-/
namespace FirmwareTrace.Bytes

/-- The number whose base-256 digits are the octets, least significant first. -/
def ofLittleEndian : List UInt8 → Nat
  | [] => 0
  | b :: rest => b.toNat + 256 * ofLittleEndian rest

/-- The `width` lowest octets of a number, least significant first. -/
def toLittleEndian : (width : Nat) → Nat → List UInt8
  | 0, _ => []
  | width + 1, n => UInt8.ofNat n :: toLittleEndian width (n / 256)

@[simp] theorem length_toLittleEndian (width n : Nat) :
    (toLittleEndian width n).length = width := by
  induction width generalizing n with
  | zero => rfl
  | succ width ih => simp [toLittleEndian, ih]

theorem ofLittleEndian_lt (bytes : List UInt8) :
    ofLittleEndian bytes < 1 <<< (8 * bytes.length) := by
  induction bytes with
  | nil => simp [ofLittleEndian]
  | cons b rest ih =>
    have hb := b.toNat_lt
    have step : 1 <<< (8 * (rest.length + 1)) = 256 * 1 <<< (8 * rest.length) := by
      rw [Nat.mul_succ, Nat.shiftLeft_add]
      omega
    rw [ofLittleEndian, List.length_cons, step]
    omega

theorem ofLittleEndian_toLittleEndian (width n : Nat) :
    ofLittleEndian (toLittleEndian width n) = n % 1 <<< (8 * width) := by
  induction width generalizing n with
  | zero => simp [toLittleEndian, ofLittleEndian, Nat.mod_one]
  | succ width ih =>
    have hb : (UInt8.ofNat n).toNat = n % 256 := UInt8.toNat_ofNat'
    have step : 1 <<< (8 * (width + 1)) = 256 * 1 <<< (8 * width) := by
      rw [Nat.mul_succ, Nat.shiftLeft_add]
      omega
    rw [toLittleEndian, ofLittleEndian, ih, hb, step, Nat.mod_mul]

theorem ofLittleEndian_toLittleEndian_of_lt (width : Nat) {n : Nat} (h : n < 1 <<< (8 * width)) :
    ofLittleEndian (toLittleEndian width n) = n := by
  rw [ofLittleEndian_toLittleEndian, Nat.mod_eq_of_lt h]

theorem toLittleEndian_ofLittleEndian (bytes : List UInt8) :
    toLittleEndian bytes.length (ofLittleEndian bytes) = bytes := by
  induction bytes with
  | nil => rfl
  | cons b rest ih =>
    have hb := b.toNat_lt
    have hdiv : (b.toNat + 256 * ofLittleEndian rest) / 256 = ofLittleEndian rest := by omega
    simp only [List.length_cons, ofLittleEndian, toLittleEndian, hdiv, ih, List.cons.injEq,
      and_true]
    apply UInt8.toNat_inj.mp
    simp only [UInt8.toNat_ofNat']
    omega

/-- The 32-bit little-endian words of a payload; a trailing partial word is dropped. -/
def words : List UInt8 → List UInt32
  | a :: b :: c :: d :: rest => UInt32.ofNat (ofLittleEndian [a, b, c, d]) :: words rest
  | _ => []

/-- The payload octets of a list of words. -/
def ofWords (words : List UInt32) : List UInt8 :=
  words.flatMap fun w => toLittleEndian 4 w.toNat

/-- The octets of an array, in order. -/
def octets (bytes : ByteArray) : List UInt8 := bytes.data.toList

@[simp] theorem length_octets (bytes : ByteArray) : (octets bytes).length = bytes.size := rfl

@[simp] theorem octets_append (a b : ByteArray) : octets (a ++ b) = octets a ++ octets b :=
  ByteArray.toList_data_append

/-- Up to `count` octets from `offset` on; fewer at the end of the array. -/
def stretch (bytes : ByteArray) (offset count : Nat) : List UInt8 :=
  octets (bytes.extract offset (offset + count))

theorem stretch_eq (bytes : ByteArray) (offset count : Nat) :
    stretch bytes offset count = ((octets bytes).drop offset).take count := by
  simp [stretch, octets, List.extract_eq_take_drop]

/-- Exactly `count` octets from `offset` on, or nothing when they are not all there. -/
def slice? (bytes : ByteArray) (offset count : Nat) : Option (List UInt8) :=
  if offset + count ≤ bytes.size then some (stretch bytes offset count) else none

theorem slice?_eq_some_iff {bytes : ByteArray} {offset count : Nat} {part : List UInt8} :
    slice? bytes offset count = some part ↔
      offset + count ≤ bytes.size ∧ stretch bytes offset count = part := by
  unfold slice?
  by_cases h : offset + count ≤ bytes.size
  · simp [h]
  · simp [h]

theorem length_of_slice? {bytes : ByteArray} {offset count : Nat} {part : List UInt8}
    (h : slice? bytes offset count = some part) : part.length = count := by
  obtain ⟨hsize, rfl⟩ := slice?_eq_some_iff.1 h
  simp only [stretch_eq, List.length_take, List.length_drop, length_octets]
  omega

/-- The little-endian number of `width` octets at `offset`. -/
def number? (bytes : ByteArray) (offset width : Nat) : Option Nat :=
  (slice? bytes offset width).map ofLittleEndian

/-- A field of a stretch is a field of the array. -/
theorem number?_of_slice? {bytes : ByteArray} {offset count : Nat} {part : List UInt8}
    (h : slice? bytes offset count = some part) (start width : Nat)
    (hfield : start + width ≤ count) :
    number? bytes (offset + start) width
      = some (ofLittleEndian ((part.drop start).take width)) := by
  obtain ⟨hsize, rfl⟩ := slice?_eq_some_iff.1 h
  have hinside : offset + start + width ≤ bytes.size := by omega
  have hsame : stretch bytes (offset + start) width
      = ((stretch bytes offset count).drop start).take width := by
    rw [stretch_eq, stretch_eq, List.drop_take, List.take_take, List.drop_drop,
      Nat.min_eq_left (by omega)]
  rw [number?, slice?, if_pos hinside, hsame]
  rfl

theorem number?_lt {bytes : ByteArray} {offset width n : Nat}
    (h : number? bytes offset width = some n) : n < 1 <<< (8 * width) := by
  obtain ⟨part, hpart, rfl⟩ := Option.map_eq_some_iff.1 h
  rw [← length_of_slice? hpart]
  exact ofLittleEndian_lt part

end FirmwareTrace.Bytes
