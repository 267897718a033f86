import FirmwareTrace.Proofs.Record.Encoding

/-! # Where the fields of a header stand

Headers and octet strings of header size are two forms of one thing: parsing and encoding
undo each other.  Each field has bits of its own in the octets, and the length code in the
first octet agrees with the payload length of the header, `headers_exact`.
-/
namespace FirmwareTrace

namespace Bytes

/-- The number in `width` bits of a little-endian field of `size` octets at `start`, from bit
`shift` on. -/
def bitsAt (octets : List UInt8) (start size shift width : Nat) : Nat :=
  (ofLittleEndian ((octets.drop start).take size) >>> shift) % 1 <<< width

theorem bitsAt_eq_toNat {octets : List UInt8} {start size shift width word : Nat}
    (hword : ofLittleEndian ((octets.drop start).take size) = word) {field : BitVec width}
    (hfield : BitVec.ofNat width (word >>> shift) = field) :
    bitsAt octets start size shift width = field.toNat := by
  rw [← hfield, BitVec.toNat_ofNat, bitsAt, hword, Nat.one_shiftLeft]

theorem ofNat_shiftRight_zero {width word : Nat} {field : BitVec width}
    (hfield : BitVec.ofNat width word = field) : BitVec.ofNat width (word >>> 0) = field := by
  rw [Nat.shiftRight_zero, hfield]

theorem bitsAt_of_lt {octets : List UInt8} {start size word : Nat} (width : Nat)
    (hword : ofLittleEndian ((octets.drop start).take size) = word) (hlt : word < 1 <<< width) :
    bitsAt octets start size 0 width = word := by
  rw [bitsAt, hword, Nat.shiftRight_zero, Nat.mod_eq_of_lt hlt]

theorem ofLittleEndian_stretch_lt (octets : List UInt8) (start size : Nat)
    (h : start + size ≤ octets.length) :
    ofLittleEndian ((octets.drop start).take size) < 1 <<< (8 * size) := by
  have hlength : ((octets.drop start).take size).length = size := by
    rw [List.length_take, List.length_drop]
    omega
  have hlt := ofLittleEndian_lt ((octets.drop start).take size)
  rwa [hlength] at hlt

/-- A field that is written back as it was read. -/
theorem toLittleEndian_stretch (octets : List UInt8) (start size : Nat)
    (h : start + size ≤ octets.length) :
    toLittleEndian size (ofLittleEndian ((octets.drop start).take size))
      = (octets.drop start).take size := by
  have hlength : ((octets.drop start).take size).length = size := by
    rw [List.length_take, List.length_drop]
    omega
  have hback := toLittleEndian_ofLittleEndian ((octets.drop start).take size)
  rwa [hlength] at hback

/-- Two fields next to each other. -/
theorem take_append_take (octets : List UInt8) (start size more : Nat) :
    (octets.drop start).take size ++ (octets.drop (start + size)).take more
      = (octets.drop start).take (size + more) := by
  rw [List.take_add, List.drop_drop]

end Bytes

/-- Parsing and encoding undo each other, and the first octet tells the payload length. -/
structure RecordFormat.Exact {Header Literal : Type} (format : RecordFormat Header Literal)
    (payloadWords : Header → Nat) : Prop where
  length_encode : ∀ header, (format.encode header).length = format.headerSize
  parse_encode : ∀ header, format.parse (format.encode header) = header
  encode_parse : ∀ octets, octets.length = format.headerSize →
    format.encode (format.parse octets) = octets
  payloadSize_encode : ∀ header,
    payloadWords header * wordSize = format.payloadSize ((format.encode header).headD 0)

open Bytes

namespace Spt

namespace Header

/-- The bits of each field in the octets of a header. -/
structure LaidOut (header : Header) (octets : List UInt8) : Prop where
  payloadWords : header.payloadWords = bitsAt octets 0 4 0 2 + 1
  line : header.line.toNat = bitsAt octets 0 4 2 14
  fileId : header.fileId.toNat = bitsAt octets 0 4 16 13
  core : header.core.toNat = bitsAt octets 0 4 29 2
  logType : header.logType.toNat = bitsAt octets 0 4 31 1
  instanceId : header.instanceId.toNat = bitsAt octets 4 2 0 16
  moduleId : header.moduleId.toNat = bitsAt octets 6 2 0 12
  library : header.library.toNat = bitsAt octets 6 2 12 4
  timestamp : header.timestamp.toNat = bitsAt octets 8 8 0 64

/-- Each field is what it was packed from, reduced to its width. -/
structure Packed (header : Header) (payloadWords line fileId core : Nat) (logType : Bool)
    (instanceId moduleId library timestamp : Nat) : Prop where
  payloadWords : header.payloadWords = (max payloadWords 1 - 1) % 4 + 1
  line : header.line.toNat = line % 0x4000
  fileId : header.fileId.toNat = fileId % 0x2000
  core : header.core.toNat = core % 4
  logType : header.logType = logType
  instanceId : header.instanceId.toNat = instanceId % 0x10000
  moduleId : header.moduleId.toNat = moduleId % 0x1000
  library : header.library.toNat = library % 0x10
  timestamp : header.timestamp.toNat = timestamp % 0x10000000000000000

theorem laidOut_encode (header : Header) : header.LaidOut header.encode where
  payloadWords := by
    rw [payloadWords, bitsAt_eq_toNat header.word_encode
      (ofNat_shiftRight_zero header.lengthCode_firstWord)]
  line := (bitsAt_eq_toNat header.word_encode header.line_firstWord).symm
  fileId := (bitsAt_eq_toNat header.word_encode header.fileId_firstWord).symm
  core := (bitsAt_eq_toNat header.word_encode header.core_firstWord).symm
  logType := by
    rw [bitsAt, List.drop_zero, header.word_encode, ← header.testBit_firstWord,
      Nat.toNat_testBit, Nat.shiftRight_eq_div_pow, Nat.one_shiftLeft]
  instanceId := (bitsAt_of_lt 16 header.instanceId_encode header.instanceId.toNat_lt).symm
  moduleId := (bitsAt_eq_toNat header.moduleWord_encode
    (ofNat_shiftRight_zero header.moduleId_moduleWord)).symm
  library := (bitsAt_eq_toNat header.moduleWord_encode header.library_moduleWord).symm
  timestamp := (bitsAt_of_lt 64 header.timestamp_encode header.timestamp.toNat_lt).symm

theorem packed_pack (payloadWords line fileId core : Nat) (logType : Bool)
    (instanceId moduleId library timestamp : Nat) :
    (pack payloadWords line fileId core logType instanceId moduleId library timestamp).Packed
      payloadWords line fileId core logType instanceId moduleId library timestamp where
  payloadWords := by
    rw [Header.payloadWords, pack, BitVec.toNat_ofNat]
    omega
  line := BitVec.toNat_ofNat _ _
  fileId := BitVec.toNat_ofNat _ _
  core := BitVec.toNat_ofNat _ _
  logType := rfl
  instanceId := UInt16.toNat_ofNat'
  moduleId := BitVec.toNat_ofNat _ _
  library := BitVec.toNat_ofNat _ _
  timestamp := UInt64.toNat_ofNat'

section

variable {octets : List UInt8} (h : octets.length = 16)
include h

theorem firstWord_parse : (parse octets).firstWord = ofLittleEndian (octets.take 4) := by
  have hlt := ofLittleEndian_stretch_lt octets 0 4 (by omega)
  rw [List.drop_zero] at hlt
  rw [firstWord_eq, parse, Nat.toNat_testBit]
  simp only [BitVec.toNat_ofNat]
  omega

theorem moduleWord_parse :
    (parse octets).moduleWord = ofLittleEndian ((octets.drop 6).take 2) := by
  have hlt := ofLittleEndian_stretch_lt octets 6 2 (by omega)
  rw [moduleWord_eq, parse]
  simp only [BitVec.toNat_ofNat]
  omega

theorem instanceId_parse :
    (parse octets).instanceId.toNat = ofLittleEndian ((octets.drop 4).take 2) :=
  UInt16.toNat_ofNat_of_lt' (ofLittleEndian_stretch_lt octets 4 2 (by omega))

theorem timestamp_parse :
    (parse octets).timestamp.toNat = ofLittleEndian ((octets.drop 8).take 8) :=
  UInt64.toNat_ofNat_of_lt' (ofLittleEndian_stretch_lt octets 8 8 (by omega))

theorem encode_parse : (parse octets).encode = octets := by
  have hword := toLittleEndian_stretch octets 0 4 (by omega)
  rw [List.drop_zero] at hword
  rw [encode, firstWord_parse h, moduleWord_parse h, instanceId_parse h, timestamp_parse h, hword,
    toLittleEndian_stretch octets 4 2 (by omega), toLittleEndian_stretch octets 6 2 (by omega),
    toLittleEndian_stretch octets 8 8 (by omega)]
  calc octets.take 4 ++ (octets.drop 4).take 2 ++ (octets.drop 6).take 2 ++ (octets.drop 8).take 8
      = (octets.drop 0).take 16 := by
        rw [← take_append_take octets 0 8 8, ← take_append_take octets 0 6 2,
          ← take_append_take octets 0 4 2, List.drop_zero]
    _ = octets := List.take_of_length_le (Nat.le_of_eq h)

end

end Header

theorem exact_format : format.Exact Header.payloadWords where
  length_encode := Header.length_encode
  parse_encode := Header.parse_encode
  encode_parse _ h := Header.encode_parse h
  payloadSize_encode header := congrArg (· * wordSize) header.payloadWords_encode.symm

end Spt

namespace Icl

namespace Header

/-- The bits of each field in the octets of a header. -/
structure LaidOut (header : Header) (octets : List UInt8) : Prop where
  payloadWords : header.payloadWords = bitsAt octets 0 4 0 3
  provider : header.provider.toNat = bitsAt octets 0 4 3 4
  entryId : header.entryId.toNat = bitsAt octets 0 4 7 25
  timestamp : header.timestamp.toNat = bitsAt octets 4 8 0 64

/-- Each field is what it was packed from, reduced to its width. -/
structure Packed (header : Header) (payloadWords provider entryId timestamp : Nat) : Prop where
  payloadWords : header.payloadWords = payloadWords % 8
  provider : header.provider.toNat = provider % 0x10
  entryId : header.entryId.toNat = entryId % 0x2000000
  timestamp : header.timestamp.toNat = timestamp % 0x10000000000000000

theorem laidOut_encode (header : Header) : header.LaidOut header.encode where
  payloadWords := by
    rw [payloadWords, bitsAt_eq_toNat header.word_encode
      (ofNat_shiftRight_zero header.lengthCode_firstWord)]
  provider := (bitsAt_eq_toNat header.word_encode header.provider_firstWord).symm
  entryId := (bitsAt_eq_toNat header.word_encode header.entryId_firstWord).symm
  timestamp := (bitsAt_of_lt 64 header.timestamp_encode header.timestamp.toNat_lt).symm

theorem packed_pack (payloadWords provider entryId timestamp : Nat) :
    (pack payloadWords provider entryId timestamp).Packed
      payloadWords provider entryId timestamp where
  payloadWords := BitVec.toNat_ofNat _ _
  provider := BitVec.toNat_ofNat _ _
  entryId := BitVec.toNat_ofNat _ _
  timestamp := UInt64.toNat_ofNat'

section

variable {octets : List UInt8} (h : octets.length = 12)
include h

theorem firstWord_parse : (parse octets).firstWord = ofLittleEndian (octets.take 4) := by
  have hlt := ofLittleEndian_stretch_lt octets 0 4 (by omega)
  rw [List.drop_zero] at hlt
  rw [firstWord_eq, parse]
  simp only [BitVec.toNat_ofNat]
  omega

theorem timestamp_parse :
    (parse octets).timestamp.toNat = ofLittleEndian ((octets.drop 4).take 8) :=
  UInt64.toNat_ofNat_of_lt' (ofLittleEndian_stretch_lt octets 4 8 (by omega))

theorem encode_parse : (parse octets).encode = octets := by
  have hword := toLittleEndian_stretch octets 0 4 (by omega)
  rw [List.drop_zero] at hword
  rw [encode, firstWord_parse h, timestamp_parse h, hword,
    toLittleEndian_stretch octets 4 8 (by omega)]
  calc octets.take 4 ++ (octets.drop 4).take 8
      = (octets.drop 0).take 12 := by rw [← take_append_take octets 0 4 8, List.drop_zero]
    _ = octets := List.take_of_length_le (Nat.le_of_eq h)

end

end Header

theorem exact_format : format.Exact Header.payloadWords where
  length_encode := Header.length_encode
  parse_encode := Header.parse_encode
  encode_parse _ h := Header.encode_parse h
  payloadSize_encode header := congrArg (· * wordSize) header.payloadWords_encode.symm

end Icl

/-- Headers of both formats are exactly the octet strings of header size.  Every field can be
read from its own bits, whatever stands in the others. -/
theorem headers_exact :
    (Spt.format.Exact Spt.Header.payloadWords ∧
      (∀ header : Spt.Header, header.LaidOut header.encode) ∧
      ∀ payloadWords line fileId core logType instanceId moduleId library timestamp,
        (Spt.Header.pack payloadWords line fileId core logType instanceId moduleId library
          timestamp).Packed payloadWords line fileId core logType instanceId moduleId library
          timestamp) ∧
    (Icl.format.Exact Icl.Header.payloadWords ∧
      (∀ header : Icl.Header, header.LaidOut header.encode) ∧
      ∀ payloadWords provider entryId timestamp,
        (Icl.Header.pack payloadWords provider entryId timestamp).Packed
          payloadWords provider entryId timestamp) :=
  ⟨⟨Spt.exact_format, Spt.Header.laidOut_encode, Spt.Header.packed_pack⟩,
    ⟨Icl.exact_format, Icl.Header.laidOut_encode, Icl.Header.packed_pack⟩⟩

end FirmwareTrace
