/-! # Message templates

A template is a `printf` string.  Scanning cuts it once into pieces: runs of
plain text, doubled percent signs, conversion specifications and percent signs
that start none.  A piece keeps the characters it was cut from, so the pieces of
a template spell the template.
-/
namespace FirmwareTrace.Template

/-- The conversions that print an argument word. -/
inductive Conversion
  | signed
  | unsigned
  | hex
  | upperHex
  | octal
  | character
  | pointer
  | address
  deriving DecidableEq, Repr

/-- The conversion a letter stands for, if it is a supported one. -/
def Conversion.ofLetter? : Char → Option Conversion
  | 'd' | 'i' => some .signed
  | 'u' => some .unsigned
  | 'x' => some .hex
  | 'X' => some .upperHex
  | 'o' => some .octal
  | 'c' => some .character
  | 'p' => some .pointer
  | 's' => some .address
  | _ => none

/-- The parts of a conversion specification as they stand between `%` and its
letter; `precision` is absent when there is no point. -/
structure Spec where
  flags : List Char
  width : List Char
  precision : Option (List Char)
  modifiers : List Char
  letter : Char
  deriving DecidableEq, Repr

namespace Spec

/-- The characters the specification was read from, after the percent sign. -/
def tail (spec : Spec) : List Char :=
  spec.flags ++ spec.width ++ (spec.precision.elim [] fun p => '.' :: p) ++ spec.modifiers
    ++ [spec.letter]

def conversion? (spec : Spec) : Option Conversion := Conversion.ofLetter? spec.letter

end Spec

/-- Why a percent sign starts no specification. -/
inductive Stray
  /-- The template ends before a conversion letter. -/
  | atEnd
  /-- A character outside ASCII stands where the letter should be. -/
  | outsideAscii
  deriving DecidableEq, Repr

inductive Piece
  /-- A nonempty run without a percent sign. -/
  | text (run : List Char)
  /-- `%%`. -/
  | percent
  /-- A complete specification, of a supported conversion or not. -/
  | directive (spec : Spec)
  /-- A percent sign alone. -/
  | stray (why : Stray)
  deriving DecidableEq, Repr

/-- The characters a piece was cut from. -/
def Piece.source : Piece → List Char
  | .text run => run
  | .percent => ['%', '%']
  | .directive spec => '%' :: spec.tail
  | .stray _ => ['%']

end FirmwareTrace.Template
