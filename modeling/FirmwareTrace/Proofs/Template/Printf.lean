import Mathlib.Data.Nat.Digits.Defs

/-! # Integer conversions of C

What C99 has `printf` print for an integer: `Directive.print` gives the rules for flags, field
width and precision, and `Placeholder.print` those for a specification as it is written, whose
width and precision may be left to arguments.  An `int` has 32 bits.
-/
namespace FirmwareTrace.Printf

inductive Flag
  | minus
  | zero
  | plus
  | space
  | sharp
  deriving DecidableEq, Repr

def Flag.letter : Flag → Char
  | .minus => '-'
  | .zero => '0'
  | .plus => '+'
  | .space => ' '
  | .sharp => '#'

/-- Length modifiers, which say nothing where every argument is one word. -/
inductive Modifier
  | h
  | l
  | j
  | z
  | t
  | L
  | q
  deriving DecidableEq, Repr

def Modifier.letter : Modifier → Char
  | .h => 'h'
  | .l => 'l'
  | .j => 'j'
  | .z => 'z'
  | .t => 't'
  | .L => 'L'
  | .q => 'q'

/-- The conversions of integers. -/
inductive Conversion
  | d
  | i
  | u
  | x
  | X
  | o
  deriving DecidableEq, Repr

/-- A word read as an `int`. -/
def int (word : UInt32) : Int := word.toInt32.toInt

namespace Conversion

def letter : Conversion → Char
  | .d => 'd'
  | .i => 'i'
  | .u => 'u'
  | .x => 'x'
  | .X => 'X'
  | .o => 'o'

def isSigned : Conversion → Bool
  | .d | .i => true
  | _ => false

def base : Conversion → Nat
  | .x | .X => 16
  | .o => 8
  | _ => 10

def symbols : Conversion → List Char
  | .X => "0123456789ABCDEF".toList
  | _ => "0123456789abcdef".toList

/-- The argument: an `int` or an `unsigned int`. -/
def value (conversion : Conversion) (word : UInt32) : Int :=
  if conversion.isSigned then int word else word.toNat

/-- The digits of a number, the first one not zero; zero has no digits. -/
def digits (conversion : Conversion) (n : Nat) : List Char :=
  (Nat.digits conversion.base n).reverse.map fun digit => conversion.symbols.getD digit '0'

end Conversion

/-- A conversion specification whose width and precision are known. -/
structure Directive where
  flags : List Flag
  width : Nat
  precision : Option Nat
  conversion : Conversion
  deriving DecidableEq, Repr

namespace Directive

variable (directive : Directive) (value : Int)

/-- A signed conversion begins with a sign if the value is negative or a flag asks for one.  The
space is ignored beside `+`. -/
def sign : List Char :=
  if ¬directive.conversion.isSigned then []
  else if value < 0 then ['-']
  else if .plus ∈ directive.flags then ['+']
  else if .space ∈ directive.flags then [' ']
  else []

/-- With `#`, a hexadecimal number other than zero begins with its base. -/
def baseMark : List Char :=
  if .sharp ∈ directive.flags ∧ value ≠ 0 then
    match directive.conversion with
    | .x => ['0', 'x']
    | .X => ['0', 'X']
    | _ => []
  else []

/-- The least number of digits to appear: the precision, which is one if none is given.  With
`#`, that of an octal number is raised so far that its first digit is a zero. -/
def leastDigits : Nat :=
  let least := directive.precision.getD 1
  if .sharp ∈ directive.flags ∧ directive.conversion = .o then
    max least ((directive.conversion.digits value.natAbs).length + 1)
  else least

/-- The digits, with zeros in front if they are too few. -/
def number : List Char :=
  let digits := directive.conversion.digits value.natAbs
  List.replicate (directive.leastDigits value - digits.length) '0' ++ digits

/-- The number in its field: at the left with `-`; behind zeros with `0`, which is ignored beside
`-` or a precision; else at the right. -/
def print : List Char :=
  let lead := directive.sign value ++ directive.baseMark value
  let number := directive.number value
  let pad := directive.width - (lead.length + number.length)
  if .minus ∈ directive.flags then lead ++ number ++ List.replicate pad ' '
  else if .zero ∈ directive.flags ∧ directive.precision = none then
    lead ++ List.replicate pad '0' ++ number
  else List.replicate pad ' ' ++ lead ++ number

end Directive

/-- A width or a precision as it is written: digits, or `*`. -/
inductive Amount
  | digits (run : List (Fin 10))
  | star
  deriving DecidableEq, Repr

namespace Amount

def spelling : Amount → List Char
  | .digits run => run.map fun digit => Nat.digitChar digit.val
  | .star => ['*']

/-- The number that decimal digits spell; none spell zero. -/
def numberOf (run : List (Fin 10)) : Nat := run.foldl (fun n digit => 10 * n + digit.val) 0

/-- The argument in place of a `*` is an `int`. -/
def value (amount : Amount) (argument : UInt32) : Int :=
  match amount with
  | .digits run => numberOf run
  | .star => int argument

/-- How many arguments are taken for a width or a precision that may be absent. -/
def stars : Option Amount → Nat
  | some .star => 1
  | _ => 0

end Amount

/-- A conversion specification as it is written. -/
structure Placeholder where
  flags : List Flag
  width : Option Amount
  precision : Option Amount
  modifiers : List Modifier
  conversion : Conversion
  /-- A zero in front of the width is a flag. -/
  width_head : ∀ run, width = some (.digits run) → run.head? ≠ some 0

namespace Placeholder

variable (placeholder : Placeholder)

def spelling : List Char :=
  '%' :: placeholder.flags.map Flag.letter ++ placeholder.width.elim [] Amount.spelling
    ++ placeholder.precision.elim [] (fun amount => '.' :: amount.spelling)
    ++ placeholder.modifiers.map Modifier.letter ++ [placeholder.conversion.letter]

/-- The arguments in front of the one that is converted. -/
def stars : Nat := Amount.stars placeholder.width + Amount.stars placeholder.precision

/-- The specification for given arguments, with width and precision cut off at a limit.  A negative
width means left adjustment, and a negative precision counts as none. -/
def directive (limit : Nat) (argument : Nat → UInt32) : Directive :=
  let width : Int := placeholder.width.elim 0 fun amount => amount.value (argument 0)
  let precision : Option Int := placeholder.precision.map fun amount =>
    amount.value (argument (Amount.stars placeholder.width))
  { flags := if width < 0 then .minus :: placeholder.flags else placeholder.flags
    width := min width.natAbs limit
    precision := precision.bind fun n => if n < 0 then none else some (min n.toNat limit)
    conversion := placeholder.conversion }

/-- What is printed for given arguments. -/
def print (limit : Nat) (argument : Nat → UInt32) : List Char :=
  (placeholder.directive limit argument).print
    (placeholder.conversion.value (argument placeholder.stars))

end Placeholder
end FirmwareTrace.Printf
