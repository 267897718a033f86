import FirmwareTrace.Record.Format

/-! # Records with source locations

An SPT header is sixteen octets: a word of length code, line, file id, core and
type, then instance, module and timestamp.  One to four payload words follow;
the length code is one less than their number.
-/
namespace FirmwareTrace.Spt

/-- The fields of a header, each at its width. -/
structure Header where
  lengthCode : BitVec 2
  line : BitVec 14
  fileId : BitVec 13
  core : BitVec 2
  logType : Bool
  instanceId : UInt16
  moduleId : BitVec 12
  library : BitVec 4
  timestamp : UInt64
  deriving DecidableEq, Repr

namespace Header

def payloadWords (header : Header) : Nat := header.lengthCode.toNat + 1

/-- A header of the given numbers, each reduced to its width.  An empty payload
cannot be expressed and is stored as one word. -/
def pack (payloadWords line fileId core : Nat) (logType : Bool)
    (instanceId moduleId library timestamp : Nat) : Header :=
  ⟨.ofNat 2 (payloadWords - 1), .ofNat 14 line, .ofNat 13 fileId, .ofNat 2 core, logType,
    .ofNat instanceId, .ofNat 12 moduleId, .ofNat 4 library, .ofNat timestamp⟩

/-- The first word: length, line, file, core and type from the low end. -/
def firstWord (header : Header) : Nat :=
  header.lengthCode.toNat + header.line.toNat <<< 2 + header.fileId.toNat <<< 16
    + header.core.toNat <<< 29 + header.logType.toNat <<< 31

/-- Module below, library in the high nibble. -/
def moduleWord (header : Header) : Nat :=
  header.moduleId.toNat + header.library.toNat <<< 12

def encode (header : Header) : List UInt8 :=
  Bytes.toLittleEndian 4 header.firstWord
    ++ Bytes.toLittleEndian 2 header.instanceId.toNat
    ++ Bytes.toLittleEndian 2 header.moduleWord
    ++ Bytes.toLittleEndian 8 header.timestamp.toNat

/-- Reads the first sixteen octets. -/
def parse (bytes : List UInt8) : Header :=
  let word := Bytes.ofLittleEndian (bytes.take 4)
  let instanceId := Bytes.ofLittleEndian ((bytes.drop 4).take 2)
  let moduleBits := Bytes.ofLittleEndian ((bytes.drop 6).take 2)
  let timestamp := Bytes.ofLittleEndian ((bytes.drop 8).take 8)
  ⟨.ofNat 2 word, .ofNat 14 (word >>> 2), .ofNat 13 (word >>> 16), .ofNat 2 (word >>> 29),
    word.testBit 31, .ofNat instanceId, .ofNat 12 moduleBits, .ofNat 4 (moduleBits >>> 12),
    .ofNat timestamp⟩

/-- File id zero and line zero name no location. -/
def isValid (header : Header) : Bool := header.fileId != 0 && header.line != 0

def libraryId (header : Header) : LibraryId := .ofNat header.library.toNat

def key (header : Header) : RecordKey :=
  .ofLocation (.ofNat header.fileId.toNat) (.ofNat header.line.toNat)

end Header

/-- A literal of a symbol cache. -/
structure Literal where
  key : RecordKey
  filename : String
  provider : String
  level : String
  /-- The template, ended by a line break. -/
  message : String
  params : Vector String 4
  deriving DecidableEq, Repr

/-- One line: timestamp, core, module and instance, location, level, message. -/
def render (header : Header) (literal : Literal) (payload : List UInt32) : Rendered :=
  let message := Template.format literal.message payload
  let number (n : Nat) : String := String.ofList (Numeral.decimal n)
  { message with
    text := number header.timestamp.toNat ++ ": " ++ number header.core.toNat ++ " "
      ++ number header.moduleId.toNat ++ "," ++ number header.instanceId.toNat ++ " "
      ++ literal.filename ++ "(" ++ number literal.key.line.toNat ++ "): " ++ literal.level ++ " "
      ++ message.text }

/-- The length code of a first octet, plus one. -/
def payloadWords (first : UInt8) : Nat := first.toNat % 4 + 1

def format : RecordFormat Header Literal where
  name := "SPT"
  headerSize := 16
  maxPayloadWords := 4
  payloadWords := payloadWords
  parse := Header.parse
  encode := Header.encode
  isValid := Header.isValid
  libraryId := Header.libraryId
  key := Header.key
  render := render
  wordSize_le_headerSize := by decide
  payloadWords_le := fun octet => by unfold payloadWords; omega

end FirmwareTrace.Spt
