import FirmwareTrace.Image.Basic
import Mathlib.Data.List.Infix

/-! # Literals as they stand in an image

`LiteralAt` says field by field which literal the octets of a section hold at an offset, and
`Complete` that they hold all of it.  The reader finds exactly that literal,
`readLiteral_eq_ok_iff`, and there is one unless it is cut off, `exists_literalAt_iff`.
-/
namespace FirmwareTrace.Image

open Bytes

/-- The part is what stands in front of the first zero. -/
def UpToZero (octets part : List UInt8) : Prop :=
  0 ∉ part ∧ (part = octets ∨ part ++ [0] <+: octets)

theorem upToZero_zero_cons {rest part : List UInt8} : UpToZero (0 :: rest) part ↔ part = [] := by
  unfold UpToZero
  cases part with
  | nil => simp
  | cons first part =>
    have hfirst : 0 ∉ first :: part → first ≠ 0 := fun h hzero => h (hzero ▸ List.mem_cons_self)
    simp only [List.cons_append, List.cons_prefix_cons, List.cons.injEq]
    tauto

theorem upToZero_cons {octet : UInt8} (h : octet ≠ 0) {rest part : List UInt8} :
    UpToZero (octet :: rest) part ↔ ∃ more, part = octet :: more ∧ UpToZero rest more := by
  unfold UpToZero
  cases part with
  | nil => simp [h.symm]
  | cons first part =>
    simp only [List.mem_cons, List.cons_append, List.cons_prefix_cons, List.cons.injEq]
    grind

theorem upToZero_iff {octets part : List UInt8} :
    UpToZero octets part ↔ octets.takeWhile (· != 0) = part := by
  induction octets generalizing part with
  | nil => cases part <;> simp [UpToZero]
  | cons octet rest ih =>
    by_cases hzero : octet = 0
    · rw [hzero, upToZero_zero_cons]
      simp [eq_comm]
    · rw [upToZero_cons hzero, List.takeWhile_cons_of_pos (by simpa using hzero)]
      constructor
      · rintro ⟨more, rfl, hmore⟩
        rw [ih.1 hmore]
      · rintro rfl
        exact ⟨_, rfl, ih.2 rfl⟩

/-- The text is that of the octets in front of the first zero. -/
def Spells (octets : List UInt8) (text : String) : Prop :=
  ∃ part, UpToZero octets part ∧ text = String.ofList (Utf8.decodeLossy part)

theorem spells_iff {octets : List UInt8} {text : String} :
    Spells octets text ↔ text = cString octets := by
  simp [Spells, upToZero_iff, cString]

/-- The address is that of an octet of the region. -/
def Region.Contains (region : Region) (address : Nat) : Prop :=
  region.address ≤ address ∧ address < region.address + region.data.size

theorem Region.offsetOf?_of_contains {region : Region} {address : Nat}
    (h : region.Contains address) : region.offsetOf? address = some (address - region.address) :=
  if_pos h

theorem Region.offsetOf?_of_not_contains {region : Region} {address : Nat}
    (h : ¬ region.Contains address) : region.offsetOf? address = none :=
  if_neg h

/-- The file name that an address refers to. -/
structure FilenameAt (names : Region) (address : Nat) (filename : String) : Prop where
  inside : names.Contains address →
    Spells (((octets names.data).drop (address - names.address)).take 4096) filename
  outside : ¬ names.Contains address → filename = "unknown_filename"

theorem filenameAt_iff {names : Region} {address : Nat} {filename : String} :
    FilenameAt names address filename ↔ filename = filenameAt names address := by
  unfold filenameAt
  by_cases h : names.Contains address
  · rw [Region.offsetOf?_of_contains h]
    dsimp only
    rw [stretch_eq, ← spells_iff]
    constructor
    · intro hname
      exact hname.inside h
    · intro hname
      exact ⟨fun _ => hname, fun hno => absurd h hno⟩
  · rw [Region.offsetOf?_of_not_contains h]
    constructor
    · intro hname
      exact hname.outside h
    · intro hname
      exact ⟨fun hyes => absurd hyes h, fun _ => hname⟩

/-- What the octets hold from `start` on: one wide and five narrow little-endian numbers, then
the text. -/
structure LiteralAt (names : Region) (data : ByteArray) (start : Nat) (literal : Icl.Literal) :
    Prop where
  offset : number? data start 8 = some literal.offset.toNat
  level : number? data (start + 8) 4 = some literal.level.toNat
  logSource : number? data (start + 12) 4 = some literal.logSource.toNat
  line : number? data (start + 16) 4 = some literal.line.toNat
  fileRef : number? data (start + 20) 4 = some literal.fileRef.toNat
  textLength : number? data (start + 24) 4 = some literal.textLength.toNat
  size_le : start + 28 + literal.textLength.toNat ≤ data.size
  text : Spells (((octets data).drop (start + 28)).take literal.textLength.toNat) literal.text
  filename : FilenameAt names literal.fileRef.toNat literal.filename

/-- Header and text lie inside the octets. -/
structure Complete (data : ByteArray) (start : Nat) : Prop where
  header : start + 28 ≤ data.size
  text : ∀ length, number? data (start + 24) 4 = some length → start + 28 + length ≤ data.size

section

variable {names : Region} {data : ByteArray} {start : Nat} {literal : Icl.Literal}

theorem slice?_header (h : start + 28 ≤ data.size) :
    slice? data start literalHeaderSize = some (stretch data start literalHeaderSize) :=
  if_pos h

theorem slice?_text {length : Nat} (h : start + 28 + length ≤ data.size) :
    slice? data (start + literalHeaderSize) length = some (stretch data (start + 28) length) :=
  if_pos h

/-- A number that was read is the number in its place. -/
theorem eq_of_number? {place width n m : Nat} (hn : number? data place width = some n)
    (hm : number? data place width = some m) : n = m :=
  Option.some.inj (hn.symm.trans hm)

theorem literalAt_of_readLiteral (h : readLiteral names data start = .ok literal) :
    LiteralAt names data start literal := by
  unfold readLiteral at h
  cases hheader : slice? data start literalHeaderSize with
  | none => simp [hheader] at h
  | some header =>
    rw [hheader] at h
    dsimp only at h
    cases htext : slice? data (start + literalHeaderSize)
        (ofLittleEndian ((header.drop 24).take 4)) with
    | none => simp [htext] at h
    | some text =>
      rw [htext] at h
      obtain rfl := Except.ok.inj h
      obtain ⟨hsize, rfl⟩ := slice?_eq_some_iff.1 htext
      have field (place width : Nat) (hplace : place + width ≤ literalHeaderSize) :=
        number?_of_slice? hheader place width hplace
      have narrow (place : Nat) (hplace : place + 4 ≤ literalHeaderSize) :
          (UInt32.ofNat (ofLittleEndian ((header.drop place).take 4))).toNat
            = ofLittleEndian ((header.drop place).take 4) :=
        UInt32.toNat_ofNat_of_lt' (number?_lt (field place 4 hplace))
      have hwide : (UInt64.ofNat (ofLittleEndian ((header.drop 0).take 8))).toNat
          = ofLittleEndian ((header.drop 0).take 8) :=
        UInt64.toNat_ofNat_of_lt' (number?_lt (field 0 8 (by decide)))
      have number (place : Nat) (hplace : place + 4 ≤ literalHeaderSize) :
          number? data (start + place) 4
            = some (UInt32.ofNat (ofLittleEndian ((header.drop place).take 4))).toNat := by
        rw [narrow place hplace, field place 4 hplace]
      refine ⟨?_, number 8 (by decide), number 12 (by decide), number 16 (by decide),
        number 20 (by decide), number 24 (by decide), ?_, ?_, ?_⟩
      · dsimp only
        rw [hwide]
        exact field 0 8 (by decide)
      · dsimp only
        rw [narrow 24 (by decide)]
        exact hsize
      · dsimp only
        rw [narrow 24 (by decide)]
        exact spells_iff.2 (congrArg cString (stretch_eq ..))
      · apply filenameAt_iff.2
        dsimp only
        rw [narrow 20 (by decide)]

theorem readLiteral_of_literalAt (h : LiteralAt names data start literal) :
    readLiteral names data start = .ok literal := by
  have hheader := slice?_header (Nat.le_of_add_right_le h.size_le)
  have field (place width : Nat) (hplace : place + width ≤ literalHeaderSize) :=
    number?_of_slice? hheader place width hplace
  have hoffset : number? data (start + 0) 8 = some literal.offset.toNat := h.offset
  unfold readLiteral
  rw [hheader]
  dsimp only
  rw [eq_of_number? (field 24 4 (by decide)) h.textLength, slice?_text h.size_le]
  dsimp only
  rw [eq_of_number? (field 0 8 (by decide)) hoffset,
    eq_of_number? (field 8 4 (by decide)) h.level,
    eq_of_number? (field 12 4 (by decide)) h.logSource,
    eq_of_number? (field 16 4 (by decide)) h.line,
    eq_of_number? (field 20 4 (by decide)) h.fileRef,
    ← filenameAt_iff.1 h.filename, stretch_eq, ← spells_iff.1 h.text]
  simp

theorem readLiteral_eq_ok_iff :
    readLiteral names data start = .ok literal ↔ LiteralAt names data start literal :=
  ⟨literalAt_of_readLiteral, readLiteral_of_literalAt⟩

/-- There is a literal at an offset exactly if nothing of it is cut off. -/
theorem exists_literalAt_iff :
    (∃ literal, LiteralAt names data start literal) ↔ Complete data start := by
  constructor
  · rintro ⟨literal, h⟩
    refine ⟨Nat.le_of_add_right_le h.size_le, fun length hlength => ?_⟩
    rw [eq_of_number? hlength h.textLength]
    exact h.size_le
  · intro h
    have hheader := slice?_header h.header
    have hsize := h.text _ (number?_of_slice? hheader 24 4 (by decide))
    have hread : ∃ literal, readLiteral names data start = .ok literal := by
      unfold readLiteral
      rw [hheader]
      dsimp only
      rw [slice?_text hsize]
      exact ⟨_, rfl⟩
    obtain ⟨literal, hread⟩ := hread
    exact ⟨literal, literalAt_of_readLiteral hread⟩

end

end FirmwareTrace.Image
