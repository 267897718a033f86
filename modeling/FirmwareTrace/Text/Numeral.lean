/-! # Numerals

Reading and writing of natural numbers in a base up to sixteen.  A numeral is a
nonempty run of digits, with an optional plus sign where `bounded?` says so.
-/
namespace FirmwareTrace.Numeral

/-- The value of a digit in the given base. -/
def digit? (base : Nat) (c : Char) : Option Nat :=
  let value :=
    if '0' ≤ c ∧ c ≤ '9' then c.toNat - '0'.toNat
    else if 'a' ≤ c ∧ c ≤ 'f' then c.toNat - 'a'.toNat + 10
    else if 'A' ≤ c ∧ c ≤ 'F' then c.toNat - 'A'.toNat + 10
    else base
  if value < base then some value else none

/-- The number that follows `value` when a run of digits is read after it. -/
def readDigits? (base value : Nat) : List Char → Option Nat
  | [] => some value
  | c :: rest =>
    match digit? base c with
    | some d => readDigits? base (base * value + d) rest
    | none => none

/-- The value of a nonempty run of digits. -/
def ofDigits? (base : Nat) : List Char → Option Nat
  | [] => none
  | cs => readDigits? base 0 cs

/-- A numeral below `bound`: an optional plus sign, then digits. -/
def bounded? (base bound : Nat) (cs : List Char) : Option Nat :=
  let digits := match cs with
    | '+' :: rest => rest
    | _ => cs
  (ofDigits? base digits).filter (· < bound)

/-- A 32-bit numeral. -/
def word? (base : Nat) (cs : List Char) : Option UInt32 :=
  (bounded? base 0x100000000 cs).map UInt32.ofNat

/-- The decimal digits of a number. -/
def decimal (n : Nat) : List Char := Nat.toDigits 10 n

/-- The lower-case hexadecimal digits of a number. -/
def hex (n : Nat) : List Char := Nat.toDigits 16 n

def upperHex (n : Nat) : List Char := (hex n).map Char.toUpper

def octal (n : Nat) : List Char := Nat.toDigits 8 n

/-- `fill` characters in front, up to the given length. -/
def padLeft (fill : Char) (length : Nat) (cs : List Char) : List Char :=
  List.replicate (length - cs.length) fill ++ cs

theorem length_padLeft (fill : Char) (length : Nat) (cs : List Char) :
    (padLeft fill length cs).length = max length cs.length := by
  simp [padLeft]
  omega

end FirmwareTrace.Numeral
