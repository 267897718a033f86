import FirmwareTrace.Template.Scan
import FirmwareTrace.Text.Numeral

/-! # Rendering a template

The pieces of a template are written in order against the words of a payload.
Each `*` and each supported conversion asks for one word; a word that is not
there counts as zero and is recorded as missing.
-/
namespace FirmwareTrace.Template

/-- No field is wider, and no precision longer, than one firmware log line. -/
def maxField : Nat := 512

/-- The words not yet asked for, and how the requests so far went. -/
structure Arguments where
  words : List UInt32
  consumed : Nat := 0
  missing : Nat := 0
  deriving DecidableEq, Repr

/-- The next word, or zero when none is left. -/
def Arguments.next (args : Arguments) : UInt32 × Arguments :=
  match args.words with
  | w :: rest => (w, { args with words := rest, consumed := args.consumed + 1 })
  | [] => (0, { args with missing := args.missing + 1 })

/-- How a width or a precision is given. -/
inductive Count
  | absent
  | fixed (n : Nat)
  | argument
  deriving DecidableEq, Repr

def Count.ofRun : List Char → Count
  | [] => .absent
  | ['*'] => .argument
  | digits => .fixed ((Numeral.ofDigits? 10 digits).getD 0)

namespace Spec

def widthCount (spec : Spec) : Count := .ofRun spec.width

/-- A point without a number means precision zero. -/
def precisionCount (spec : Spec) : Count :=
  match spec.precision with
  | none => .absent
  | some [] => .fixed 0
  | some run => .ofRun run

end Spec

/-- A word read as a two's complement number. -/
def signedValue (word : UInt32) : Int :=
  if word.toNat < 0x80000000 then word.toNat else (word.toNat : Int) - 0x100000000

/-- A specification with its width and precision known; a width of zero stands
for none. -/
structure Layout where
  left : Bool
  zero : Bool
  plus : Bool
  space : Bool
  alternate : Bool
  width : Nat
  precision : Option Nat
  deriving DecidableEq, Repr

/-- The width, and whether it asks for left adjustment. -/
def Count.resolveWidth (count : Count) (args : Arguments) : (Nat × Bool) × Arguments :=
  match count with
  | .absent => ((0, false), args)
  | .fixed n => ((min n maxField, false), args)
  | .argument =>
    let width := signedValue args.next.1
    ((min width.natAbs maxField, decide (width < 0)), args.next.2)

/-- The precision; a negative one counts as absent. -/
def Count.resolvePrecision (count : Count) (args : Arguments) : Option Nat × Arguments :=
  match count with
  | .absent => (none, args)
  | .fixed n => (some (min n maxField), args)
  | .argument =>
    let precision := signedValue args.next.1
    (if precision < 0 then none else some (min precision.toNat maxField), args.next.2)

def Spec.resolve (spec : Spec) (args : Arguments) : Layout × Arguments :=
  let width := spec.widthCount.resolveWidth args
  let precision := spec.precisionCount.resolvePrecision width.2
  (⟨spec.flags.contains '-' || width.1.2, spec.flags.contains '0', spec.flags.contains '+',
    spec.flags.contains ' ', spec.flags.contains '#', width.1.1, precision.1⟩, precision.2)

/-- The digits of an integer: none for a zero of precision zero, otherwise at
least as many as the precision asks for. -/
def withPrecision (precision : Option Nat) (word : UInt32) (digits : List Char) : List Char :=
  match precision with
  | none => digits
  | some p => if p = 0 ∧ word = 0 then [] else Numeral.padLeft '0' p digits

/-- What a conversion prints: a sign or base mark, then the body. -/
structure Parts where
  mark : List Char
  body : List Char
  deriving DecidableEq, Repr

def signMark (layout : Layout) (value : Int) : List Char :=
  if value < 0 then ['-'] else if layout.plus then ['+'] else if layout.space then [' '] else []

def Conversion.parts (layout : Layout) (word : UInt32) : Conversion → Parts
  | .signed =>
    let value := signedValue word
    ⟨signMark layout value, withPrecision layout.precision word (Numeral.decimal value.natAbs)⟩
  | .unsigned => ⟨[], withPrecision layout.precision word (Numeral.decimal word.toNat)⟩
  | .hex =>
    ⟨if layout.alternate ∧ word ≠ 0 then ['0', 'x'] else [],
      withPrecision layout.precision word (Numeral.hex word.toNat)⟩
  | .upperHex =>
    ⟨if layout.alternate ∧ word ≠ 0 then ['0', 'X'] else [],
      withPrecision layout.precision word (Numeral.upperHex word.toNat)⟩
  | .octal =>
    let digits := withPrecision layout.precision word (Numeral.octal word.toNat)
    ⟨[], if layout.alternate ∧ digits.head? ≠ some '0' then '0' :: digits else digits⟩
  | .character => ⟨[], [Char.ofNat (word.toNat % 256)]⟩
  | .pointer => ⟨['0', 'x'], Numeral.hex word.toNat⟩
  | .address => ⟨[], '0' :: 'x' :: Numeral.padLeft '0' 8 (Numeral.hex word.toNat)⟩

/-- Zeros may fill the field of a number only. -/
def Conversion.zeroFills : Conversion → Bool
  | .character | .address => false
  | _ => true

/-- The parts in their field: spaces after them, zeros behind the mark, or
spaces in front. -/
def Parts.place (parts : Parts) (layout : Layout) (zeroFills : Bool) : List Char :=
  let shown := parts.mark ++ parts.body
  let pad := layout.width - shown.length
  if layout.left then shown ++ List.replicate pad ' '
  else if layout.zero && zeroFills && layout.precision.isNone then
    parts.mark ++ List.replicate pad '0' ++ parts.body
  else List.replicate pad ' ' ++ shown

/-- Writes a specification.  An unsupported one is copied and asks for nothing,
whatever stars it holds. -/
def Spec.write (spec : Spec) (args : Arguments) : List Char × Arguments :=
  match spec.conversion? with
  | none => ('%' :: spec.tail, args)
  | some conversion =>
    let layout := spec.resolve args
    let word := layout.2.next
    ((conversion.parts layout.1 word.1).place layout.1 conversion.zeroFills, word.2)

def Piece.write (args : Arguments) : Piece → List Char × Arguments
  | .text run => (run, args)
  | .percent => (['%'], args)
  | .directive spec => spec.write args
  | .stray _ => (['%'], args)

def writeAll : List Piece → Arguments → List Char × Arguments
  | [], args => ([], args)
  | piece :: rest, args =>
    let first := piece.write args
    let others := writeAll rest first.2
    (first.1 ++ others.1, others.2)

end Template

/-- A rendered template and the account of its arguments. -/
structure Rendered where
  text : String
  consumed : Nat
  missing : Nat
  deriving DecidableEq, Repr

/-- Whether the template asked for more words than there were. -/
def Rendered.overflowed (rendered : Rendered) : Bool := decide (0 < rendered.missing)

/-- Renders a template against the words of a payload. -/
def Template.format (template : String) (words : List UInt32) : Rendered :=
  let written := writeAll (pieces template.toList) { words }
  ⟨String.ofList written.1, written.2.consumed, written.2.missing⟩

end FirmwareTrace
