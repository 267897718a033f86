import FirmwareTrace.Record.Icl
import FirmwareTrace.Record.Spt

/-! # Writing records

A record is written from numbers in their ranges and read back as the same record:
the octets of its header parse to the header, its first octet declares the payload
that follows, and what is looked up and rendered are the numbers it was written from.
-/
namespace FirmwareTrace

namespace Bytes

theorem length_ofWords (words : List UInt32) :
    (ofWords words).length = words.length * wordSize := by
  induction words with
  | nil => rfl
  | cons word words ih =>
    rw [ofWords, List.flatMap_cons, List.length_append, length_toLittleEndian, ← ofWords, ih,
      List.length_cons, Nat.succ_mul, Nat.add_comm]
    rfl

theorem words_ofWords (words : List UInt32) : Bytes.words (ofWords words) = words := by
  induction words with
  | nil => rfl
  | cons word words ih =>
    change UInt32.ofNat (ofLittleEndian (toLittleEndian 4 word.toNat)) ::
      Bytes.words (ofWords words) = word :: words
    rw [ih, ofLittleEndian_toLittleEndian_of_lt 4 word.toNat_lt, UInt32.ofNat_toNat]

end Bytes

/-- A way to write the records of a format, each from the fields it is made of. -/
structure RecordFormat.Writer {Header Literal : Type} (format : RecordFormat Header Literal) where
  Fields : Type
  header : Fields → Header
  payload : Fields → List UInt32
  library : Fields → LibraryId
  key : Fields → RecordKey
  render : Fields → Literal → Rendered
  length_encode : ∀ fields, (format.encode (header fields)).length = format.headerSize
  parse_encode : ∀ fields, format.parse (format.encode (header fields)) = header fields
  payloadWords_encode : ∀ fields,
    format.payloadWords ((format.encode (header fields)).headD 0) = (payload fields).length
  isValid_header : ∀ fields, format.isValid (header fields) = true
  libraryId_header : ∀ fields, format.libraryId (header fields) = library fields
  key_header : ∀ fields, format.key (header fields) = key fields
  render_header : ∀ fields literal,
    format.render (header fields) literal (payload fields) = render fields literal

namespace Spt

namespace Header

variable (header : Header)

theorem firstWord_eq : header.firstWord = header.lengthCode.toNat
    + header.line.toNat * 0x4 + header.fileId.toNat * 0x10000 + header.core.toNat * 0x20000000
    + header.logType.toNat * 0x80000000 := by
  unfold firstWord
  rw [Nat.shiftLeft_eq, Nat.shiftLeft_eq, Nat.shiftLeft_eq, Nat.shiftLeft_eq]

theorem moduleWord_eq :
    header.moduleWord = header.moduleId.toNat + header.library.toNat * 0x1000 := by
  rw [moduleWord, Nat.shiftLeft_eq]

theorem firstWord_lt : header.firstWord < 1 <<< 32 := by
  have hlength := header.lengthCode.isLt
  have hline := header.line.isLt
  have hfile := header.fileId.isLt
  have hcore := header.core.isLt
  have htype := Bool.toNat_lt header.logType
  rw [firstWord_eq]
  omega

theorem moduleWord_lt : header.moduleWord < 1 <<< 16 := by
  have hmodule := header.moduleId.isLt
  have hlibrary := header.library.isLt
  rw [moduleWord_eq]
  omega

theorem lengthCode_firstWord : BitVec.ofNat 2 header.firstWord = header.lengthCode := by
  have hlength := header.lengthCode.isLt
  apply BitVec.eq_of_toNat_eq
  rw [BitVec.toNat_ofNat, firstWord_eq]
  omega

theorem line_firstWord : BitVec.ofNat 14 (header.firstWord >>> 2) = header.line := by
  have hlength := header.lengthCode.isLt
  have hline := header.line.isLt
  apply BitVec.eq_of_toNat_eq
  rw [BitVec.toNat_ofNat, firstWord_eq]
  omega

theorem fileId_firstWord : BitVec.ofNat 13 (header.firstWord >>> 16) = header.fileId := by
  have hlength := header.lengthCode.isLt
  have hline := header.line.isLt
  have hfile := header.fileId.isLt
  apply BitVec.eq_of_toNat_eq
  rw [BitVec.toNat_ofNat, firstWord_eq]
  omega

theorem core_firstWord : BitVec.ofNat 2 (header.firstWord >>> 29) = header.core := by
  have hlength := header.lengthCode.isLt
  have hline := header.line.isLt
  have hfile := header.fileId.isLt
  have hcore := header.core.isLt
  apply BitVec.eq_of_toNat_eq
  rw [BitVec.toNat_ofNat, firstWord_eq]
  omega

theorem testBit_firstWord : header.firstWord.testBit 31 = header.logType := by
  have hlength := header.lengthCode.isLt
  have hline := header.line.isLt
  have hfile := header.fileId.isLt
  have hcore := header.core.isLt
  rw [Nat.testBit_eq_decide_div_mod_eq, firstWord_eq]
  cases header.logType with
  | false =>
    rw [Bool.toNat_false]
    exact decide_eq_false (by omega)
  | true =>
    rw [Bool.toNat_true]
    exact decide_eq_true (by omega)

theorem moduleId_moduleWord : BitVec.ofNat 12 header.moduleWord = header.moduleId := by
  have hmodule := header.moduleId.isLt
  apply BitVec.eq_of_toNat_eq
  rw [BitVec.toNat_ofNat, moduleWord_eq]
  omega

theorem library_moduleWord : BitVec.ofNat 4 (header.moduleWord >>> 12) = header.library := by
  have hmodule := header.moduleId.isLt
  have hlibrary := header.library.isLt
  apply BitVec.eq_of_toNat_eq
  rw [BitVec.toNat_ofNat, moduleWord_eq]
  omega

theorem length_encode : header.encode.length = 16 := by
  simp only [encode, List.length_append, Bytes.length_toLittleEndian]

theorem word_encode : Bytes.ofLittleEndian (header.encode.take 4) = header.firstWord :=
  Bytes.ofLittleEndian_toLittleEndian_of_lt 4 header.firstWord_lt

theorem instanceId_encode :
    Bytes.ofLittleEndian ((header.encode.drop 4).take 2) = header.instanceId.toNat :=
  Bytes.ofLittleEndian_toLittleEndian_of_lt 2 header.instanceId.toNat_lt

theorem moduleWord_encode :
    Bytes.ofLittleEndian ((header.encode.drop 6).take 2) = header.moduleWord :=
  Bytes.ofLittleEndian_toLittleEndian_of_lt 2 header.moduleWord_lt

theorem timestamp_encode :
    Bytes.ofLittleEndian ((header.encode.drop 8).take 8) = header.timestamp.toNat :=
  Bytes.ofLittleEndian_toLittleEndian_of_lt 8 header.timestamp.toNat_lt

theorem parse_encode : parse header.encode = header := by
  simp only [parse, word_encode, instanceId_encode, moduleWord_encode, timestamp_encode,
    lengthCode_firstWord, line_firstWord, fileId_firstWord, core_firstWord, testBit_firstWord,
    moduleId_moduleWord, library_moduleWord, UInt16.ofNat_toNat, UInt64.ofNat_toNat]

/-- The first octet alone declares the payload. -/
theorem payloadWords_encode :
    Spt.payloadWords (header.encode.headD 0) = header.payloadWords := by
  have hlength := header.lengthCode.isLt
  have hfirst := header.firstWord_eq
  change (UInt8.ofNat header.firstWord).toNat % 4 + 1 = header.lengthCode.toNat + 1
  rw [UInt8.toNat_ofNat']
  omega

end Header

/-- What a record is written from.  The numbers without a range are written as far as
there are bits for them. -/
structure Fields where
  line : Nat
  fileId : Nat
  core : Nat
  logType : Bool
  instanceId : Nat
  moduleId : Nat
  library : Nat
  timestamp : Nat
  payload : List UInt32
  line_range : 1 ≤ line ∧ line ≤ 16383
  fileId_range : 1 ≤ fileId ∧ fileId ≤ 8191
  library_le : library ≤ 15
  payload_range : 1 ≤ payload.length ∧ payload.length ≤ 4

namespace Fields

variable (fields : Fields)

def header : Header :=
  .pack fields.payload.length fields.line fields.fileId fields.core fields.logType
    fields.instanceId fields.moduleId fields.library fields.timestamp

/-- One line: timestamp, core, module and instance, location, level, message. -/
def render (literal : Literal) : Rendered :=
  let message := Template.format literal.message fields.payload
  let number (n : Nat) : String := String.ofList (Numeral.decimal n)
  { message with
    text := number (fields.timestamp % 0x10000000000000000) ++ ": "
      ++ number (fields.core % 4) ++ " "
      ++ number (fields.moduleId % 0x1000) ++ "," ++ number (fields.instanceId % 0x10000) ++ " "
      ++ literal.filename ++ "(" ++ number literal.key.line.toNat ++ "): "
      ++ literal.level ++ " " ++ message.text }

theorem payloadWords_header : fields.header.payloadWords = fields.payload.length := by
  obtain ⟨hpos, hle⟩ := fields.payload_range
  change (BitVec.ofNat 2 (fields.payload.length - 1)).toNat + 1 = fields.payload.length
  rw [BitVec.toNat_ofNat]
  omega

theorem fileId_header : fields.header.fileId.toNat = fields.fileId := by
  have hle := fields.fileId_range.2
  exact (BitVec.toNat_ofNat _ _).trans (Nat.mod_eq_of_lt (by omega))

theorem line_header : fields.header.line.toNat = fields.line := by
  have hle := fields.line_range.2
  exact (BitVec.toNat_ofNat _ _).trans (Nat.mod_eq_of_lt (by omega))

theorem library_header : fields.header.library.toNat = fields.library := by
  have hle := fields.library_le
  exact (BitVec.toNat_ofNat _ _).trans (Nat.mod_eq_of_lt (by omega))

theorem isValid_header : fields.header.isValid = true := by
  have hfile := fields.fileId_header
  have hline := fields.line_header
  have hfilePos := fields.fileId_range.1
  have hlinePos := fields.line_range.1
  rw [Header.isValid, Bool.and_eq_true, bne_iff_ne, bne_iff_ne]
  constructor <;> intro h
  · rw [h] at hfile
    exact absurd hfile (Nat.ne_of_lt hfilePos)
  · rw [h] at hline
    exact absurd hline (Nat.ne_of_lt hlinePos)

theorem key_header :
    fields.header.key = .ofLocation (.ofNat fields.fileId) (.ofNat fields.line) := by
  rw [Header.key, fileId_header, line_header]

end Fields

def writer : RecordFormat.Writer format where
  Fields := Fields
  header := Fields.header
  payload := Fields.payload
  library fields := .ofNat fields.library
  key fields := .ofLocation (.ofNat fields.fileId) (.ofNat fields.line)
  render := Fields.render
  length_encode fields := fields.header.length_encode
  parse_encode fields := fields.header.parse_encode
  payloadWords_encode fields :=
    fields.header.payloadWords_encode.trans fields.payloadWords_header
  isValid_header := Fields.isValid_header
  libraryId_header fields := congrArg UInt32.ofNat fields.library_header
  key_header := Fields.key_header
  render_header _ _ := rfl

end Spt

namespace Icl

namespace Header

variable (header : Header)

theorem firstWord_eq : header.firstWord = header.lengthCode.toNat
    + header.provider.toNat * 0x8 + header.entryId.toNat * 0x80 := by
  unfold firstWord
  rw [Nat.shiftLeft_eq, Nat.shiftLeft_eq]

theorem firstWord_lt : header.firstWord < 1 <<< 32 := by
  have hlength := header.lengthCode.isLt
  have hprovider := header.provider.isLt
  have hentry := header.entryId.isLt
  rw [firstWord_eq]
  omega

theorem lengthCode_firstWord : BitVec.ofNat 3 header.firstWord = header.lengthCode := by
  have hlength := header.lengthCode.isLt
  apply BitVec.eq_of_toNat_eq
  rw [BitVec.toNat_ofNat, firstWord_eq]
  omega

theorem provider_firstWord : BitVec.ofNat 4 (header.firstWord >>> 3) = header.provider := by
  have hlength := header.lengthCode.isLt
  have hprovider := header.provider.isLt
  apply BitVec.eq_of_toNat_eq
  rw [BitVec.toNat_ofNat, firstWord_eq]
  omega

theorem entryId_firstWord : BitVec.ofNat 25 (header.firstWord >>> 7) = header.entryId := by
  have hlength := header.lengthCode.isLt
  have hprovider := header.provider.isLt
  have hentry := header.entryId.isLt
  apply BitVec.eq_of_toNat_eq
  rw [BitVec.toNat_ofNat, firstWord_eq]
  omega

theorem length_encode : header.encode.length = 12 := by
  simp only [encode, List.length_append, Bytes.length_toLittleEndian]

theorem word_encode : Bytes.ofLittleEndian (header.encode.take 4) = header.firstWord :=
  Bytes.ofLittleEndian_toLittleEndian_of_lt 4 header.firstWord_lt

theorem timestamp_encode :
    Bytes.ofLittleEndian ((header.encode.drop 4).take 8) = header.timestamp.toNat :=
  Bytes.ofLittleEndian_toLittleEndian_of_lt 8 header.timestamp.toNat_lt

theorem parse_encode : parse header.encode = header := by
  simp only [parse, word_encode, timestamp_encode, lengthCode_firstWord, provider_firstWord,
    entryId_firstWord, UInt64.ofNat_toNat]

/-- The first octet alone declares the payload. -/
theorem payloadWords_encode :
    Icl.payloadWords (header.encode.headD 0) = header.payloadWords := by
  have hlength := header.lengthCode.isLt
  have hfirst := header.firstWord_eq
  change (UInt8.ofNat header.firstWord).toNat % 8 = header.lengthCode.toNat
  rw [UInt8.toNat_ofNat']
  omega

end Header

/-- What a record is written from.  A timestamp is written as far as there are bits for it. -/
structure Fields where
  provider : Nat
  entryId : Nat
  timestamp : Nat
  payload : List UInt32
  provider_le : provider ≤ 15
  entryId_range : 1 ≤ entryId ∧ entryId < 0x2000000
  payload_le : payload.length ≤ 7

namespace Fields

variable (fields : Fields)

def header : Header :=
  .pack fields.payload.length fields.provider fields.entryId fields.timestamp

/-- Two lines, each with the timestamp: the location, then the message. -/
def render (literal : Literal) : Rendered :=
  let message := Template.format literal.text fields.payload
  let timestamp := String.ofList (Numeral.decimal (fields.timestamp % 0x10000000000000000))
  let line := String.ofList (Numeral.decimal literal.line.toNat)
  { message with
    text := timestamp ++ ": " ++ literal.filename ++ "(" ++ line ++ "):\n"
      ++ timestamp ++ ": " ++ message.text ++ "\n" }

theorem payloadWords_header : fields.header.payloadWords = fields.payload.length :=
  (BitVec.toNat_ofNat _ _).trans (Nat.mod_eq_of_lt (Nat.lt_succ_of_le fields.payload_le))

theorem provider_header : fields.header.provider.toNat = fields.provider :=
  (BitVec.toNat_ofNat _ _).trans (Nat.mod_eq_of_lt (Nat.lt_succ_of_le fields.provider_le))

theorem entryId_header : fields.header.entryId.toNat = fields.entryId :=
  (BitVec.toNat_ofNat _ _).trans (Nat.mod_eq_of_lt fields.entryId_range.2)

theorem isValid_header : fields.header.isValid = true := by
  have hentry := fields.entryId_header
  have hpos := fields.entryId_range.1
  rw [Header.isValid, bne_iff_ne]
  intro h
  rw [h] at hentry
  exact absurd hentry (Nat.ne_of_lt hpos)

end Fields

def writer : RecordFormat.Writer format where
  Fields := Fields
  header := Fields.header
  payload := Fields.payload
  library fields := .ofNat fields.provider
  key fields := .ofEntry (.ofNat fields.entryId)
  render := Fields.render
  length_encode fields := fields.header.length_encode
  parse_encode fields := fields.header.parse_encode
  payloadWords_encode fields :=
    fields.header.payloadWords_encode.trans fields.payloadWords_header
  isValid_header := Fields.isValid_header
  libraryId_header fields := congrArg UInt32.ofNat fields.provider_header
  key_header fields := congrArg (fun entry => RecordKey.ofEntry (.ofNat entry))
    fields.entryId_header
  render_header _ _ := rfl

end Icl
end FirmwareTrace
