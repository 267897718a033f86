/-! # UTF-8

Decoding of octet strings.  A sequence that no character has ends before the
first octet that rules it out, and what was read of it counts as one broken
sequence, which a lenient reading shows as one replacement character.
-/
namespace FirmwareTrace.Utf8

/-- What a first octet announces: how many octets follow, which values the first
of them may take, and the leading bits of the code point. -/
structure Lead where
  tails : Nat
  low : Nat
  high : Nat
  bits : Nat
  deriving DecidableEq, Repr

def Lead.of? (octet : UInt8) : Option Lead :=
  let n := octet.toNat
  if n < 0x80 then some ⟨0, 0x80, 0xbf, n⟩
  else if n < 0xc2 then none
  else if n < 0xe0 then some ⟨1, 0x80, 0xbf, n % 0x20⟩
  else if n = 0xe0 then some ⟨2, 0xa0, 0xbf, 0⟩
  else if n = 0xed then some ⟨2, 0x80, 0x9f, 0xd⟩
  else if n < 0xf0 then some ⟨2, 0x80, 0xbf, n % 0x10⟩
  else if n = 0xf0 then some ⟨3, 0x90, 0xbf, 0⟩
  else if n < 0xf4 then some ⟨3, 0x80, 0xbf, n % 0x8⟩
  else if n = 0xf4 then some ⟨3, 0x80, 0x8f, 4⟩
  else none

/-- Reads the octets that a first octet announced.  Gives the code point, or
nothing when an octet does not fit, and the octets left. -/
def readTails : (tails low high bits : Nat) → List UInt8 → Option Nat × List UInt8
  | 0, _, _, bits, rest => (some bits, rest)
  | _ + 1, _, _, _, [] => (none, [])
  | tails + 1, low, high, bits, octet :: rest =>
    if low ≤ octet.toNat ∧ octet.toNat ≤ high then
      readTails tails 0x80 0xbf (bits * 64 + octet.toNat % 64) rest
    else (none, octet :: rest)

theorem length_readTails_le (tails low high bits : Nat) (octets : List UInt8) :
    (readTails tails low high bits octets).2.length ≤ octets.length := by
  induction tails generalizing low high bits octets with
  | zero => simp [readTails]
  | succ tails ih =>
    match octets with
    | [] => simp [readTails]
    | octet :: rest =>
      rw [readTails]
      split
      · exact Nat.le_succ_of_le (ih _ _ _ _)
      · simp

/-- One character, or nothing for a broken sequence, and the octets left. -/
def readChar (first : UInt8) (rest : List UInt8) : Option Char × List UInt8 :=
  match Lead.of? first with
  | none => (none, rest)
  | some lead =>
    let code := readTails lead.tails lead.low lead.high lead.bits rest
    (code.1.map Char.ofNat, code.2)

theorem length_readChar_le (first : UInt8) (rest : List UInt8) :
    (readChar first rest).2.length ≤ rest.length := by
  unfold readChar
  split
  · simp
  · exact length_readTails_le _ _ _ _ _

/-- The characters in order; `none` stands for a broken sequence. -/
def sequences : List UInt8 → List (Option Char)
  | [] => []
  | first :: rest => (readChar first rest).1 :: sequences (readChar first rest).2
termination_by octets => octets.length
decreasing_by
  have := length_readChar_le first rest
  simp
  omega

/-- The text, with a replacement character for each broken sequence. -/
def decodeLossy (octets : List UInt8) : List Char :=
  (sequences octets).map fun c => c.getD '\ufffd'

/-- The text, unless a sequence is broken. -/
def decode? (octets : List UInt8) : Option (List Char) :=
  (sequences octets).mapM id

/-- The octets of a text. -/
def encode (text : String) : List UInt8 := text.toByteArray.data.toList

end FirmwareTrace.Utf8
