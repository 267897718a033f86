import FirmwareTrace.Record.Format

/-! # Records with entry ids

An ICL header is twelve octets: a word of payload length, provider and entry id,
then the timestamp.  The entry id is the address of a literal in the firmware
image, without its low seven bits.  Up to seven payload words follow.
-/
namespace FirmwareTrace.Icl

/-- The fields of a header, each at its width. -/
structure Header where
  lengthCode : BitVec 3
  provider : BitVec 4
  entryId : BitVec 25
  timestamp : UInt64
  deriving DecidableEq, Repr

namespace Header

def payloadWords (header : Header) : Nat := header.lengthCode.toNat

/-- A header of the given numbers, each reduced to its width. -/
def pack (payloadWords provider entryId timestamp : Nat) : Header :=
  ⟨.ofNat 3 payloadWords, .ofNat 4 provider, .ofNat 25 entryId, .ofNat timestamp⟩

/-- The first word: length, provider and entry id from the low end. -/
def firstWord (header : Header) : Nat :=
  header.lengthCode.toNat + header.provider.toNat <<< 3 + header.entryId.toNat <<< 7

def encode (header : Header) : List UInt8 :=
  Bytes.toLittleEndian 4 header.firstWord ++ Bytes.toLittleEndian 8 header.timestamp.toNat

/-- Reads the first twelve octets. -/
def parse (bytes : List UInt8) : Header :=
  let word := Bytes.ofLittleEndian (bytes.take 4)
  let timestamp := Bytes.ofLittleEndian ((bytes.drop 4).take 8)
  ⟨.ofNat 3 word, .ofNat 4 (word >>> 3), .ofNat 25 (word >>> 7), .ofNat timestamp⟩

/-- Entry id zero names no literal. -/
def isValid (header : Header) : Bool := header.entryId != 0

def libraryId (header : Header) : LibraryId := .ofNat header.provider.toNat

def key (header : Header) : RecordKey := .ofEntry (.ofNat header.entryId.toNat)

end Header

/-- A literal of a firmware image. -/
structure Literal where
  text : String
  filename : String
  offset : UInt64
  level : UInt32
  logSource : UInt32
  line : UInt32
  fileRef : UInt32
  textLength : UInt32
  deriving DecidableEq, Repr

/-- Two lines, each with the timestamp: the location, then the message. -/
def render (header : Header) (literal : Literal) (payload : List UInt32) : Rendered :=
  let message := Template.format literal.text payload
  let timestamp := String.ofList (Numeral.decimal header.timestamp.toNat)
  let line := String.ofList (Numeral.decimal literal.line.toNat)
  { message with
    text := timestamp ++ ": " ++ literal.filename ++ "(" ++ line ++ "):\n"
      ++ timestamp ++ ": " ++ message.text ++ "\n" }

/-- The length code of a first octet. -/
def payloadWords (first : UInt8) : Nat := first.toNat % 8

def format : RecordFormat Header Literal where
  name := "ICL"
  headerSize := 12
  maxPayloadWords := 7
  payloadWords := payloadWords
  parse := Header.parse
  encode := Header.encode
  isValid := Header.isValid
  libraryId := Header.libraryId
  key := Header.key
  render := render
  wordSize_le_headerSize := by decide
  payloadWords_le := fun octet => by unfold payloadWords; omega

end FirmwareTrace.Icl
