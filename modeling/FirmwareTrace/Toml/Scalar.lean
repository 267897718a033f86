import FirmwareTrace.Text.Numeral
import FirmwareTrace.Toml.Value

/-! # Numbers and dates

Readers of the front of a text; each gives what it read and the rest.  Between two
digits of a number there may be an underscore.
-/
namespace FirmwareTrace.Toml

/-! ## Numbers -/

/-- Digits that follow a digit. -/
def moreDigits (isDigit : Char → Bool) : List Char → List Char × List Char
  | '_' :: c :: rest =>
    if isDigit c then
      let more := moreDigits isDigit rest
      (c :: more.1, more.2)
    else ([], '_' :: c :: rest)
  | c :: rest =>
    if isDigit c then
      let more := moreDigits isDigit rest
      (c :: more.1, more.2)
    else ([], c :: rest)
  | [] => ([], [])

def digits? (isDigit : Char → Bool) : List Char → Option (List Char × List Char)
  | c :: rest =>
    if isDigit c then
      let more := moreDigits isDigit rest
      some (c :: more.1, more.2)
    else none
  | [] => none

/-- Digits of a whole number; a zero in front stands alone. -/
def whole? : List Char → Option (List Char × List Char)
  | '0' :: rest => some (['0'], rest)
  | cs => digits? Char.isDigit cs

/-- Whether there is a minus sign, and what follows a sign. -/
def sign : List Char → Bool × List Char
  | '-' :: rest => (true, rest)
  | '+' :: rest => (false, rest)
  | cs => (false, cs)

def valueOf (base : Nat) (digits : List Char) : Nat := (Numeral.ofDigits? base digits).getD 0

/-- The letter after the zero of a numeral that is not decimal, and its base. -/
def baseOf? : Char → Option Nat
  | 'x' => some 16
  | 'o' => some 8
  | 'b' => some 2
  | _ => none

def maxInteger : Nat := 0x7fffffffffffffff

def decimalInteger? (cs : List Char) : Option (Value × List Char) :=
  let (negative, cs) := sign cs
  match whole? cs with
  | none => none
  | some (digits, rest) =>
    let n := valueOf 10 digits
    if negative then if n ≤ maxInteger + 1 then some (.integer (-n), rest) else none
    else if n ≤ maxInteger then some (.integer n, rest) else none

def integer? : List Char → Option (Value × List Char)
  | '0' :: c :: rest =>
    match baseOf? c with
    | none => decimalInteger? ('0' :: c :: rest)
    | some base =>
      match digits? (fun c => (Numeral.digit? base c).isSome) rest with
      | none => none
      | some (digits, rest) =>
        let n := valueOf base digits
        if n ≤ maxInteger then some (.integer n, rest) else none
  | cs => decimalInteger? cs

/-- Digits after a point; none if there is no point. -/
def fraction? : List Char → Option (List Char × List Char)
  | '.' :: rest => digits? Char.isDigit rest
  | _ => none

def exponent? : List Char → Option (Int × List Char)
  | c :: rest =>
    if c = 'e' ∨ c = 'E' then
      let (negative, rest) := sign rest
      (digits? Char.isDigit rest).map fun (digits, rest) =>
        let n : Int := valueOf 10 digits
        (if negative then -n else n, rest)
    else none
  | [] => none

/-- The least number that is nearer to infinity than to any finite float. -/
def floatLimit : Nat := 1 <<< 1024 - 1 <<< 970

/-- Whether digits, times a power of ten, reach the limit.  The power is only
computed where the number of digits does not settle it. -/
def reachesLimit (digits : List Char) (exponent : Int) : Bool :=
  let digits := digits.dropWhile (· = '0')
  let size : Int := digits.length + exponent
  if digits = [] ∨ size < 308 then false
  else if 310 < size then true
  else
    match exponent with
    | .ofNat e => floatLimit ≤ valueOf 10 digits * Nat.pow 10 e
    | .negSucc e => floatLimit * Nat.pow 10 (e + 1) ≤ valueOf 10 digits

/-- A number with a fraction, an exponent or both, unless it is too large. -/
def plainFloat? (cs : List Char) : Option (Value × List Char) := do
  let (negative, cs) := sign cs
  let (whole, cs) ← whole? cs
  let (fraction, exponent, rest) ←
    match fraction? cs with
    | some (fraction, rest) =>
      match exponent? rest with
      | some (exponent, rest) => some (fraction, exponent, rest)
      | none => some (fraction, 0, rest)
    | none => (exponent? cs).map fun (exponent, rest) => ([], exponent, rest)
  if !negative && reachesLimit (whole ++ fraction) (exponent - fraction.length) then none
  else some (.float, rest)

/-- The rest after a word. -/
def word? (word : String) (cs : List Char) : Option (List Char) :=
  if word.toList.isPrefixOf cs then some (cs.drop word.length) else none

def specialFloat? (cs : List Char) : Option (Value × List Char) :=
  let cs := (sign cs).2
  ((word? "inf" cs).or (word? "nan" cs)).map fun rest => (.float, rest)

def float? (cs : List Char) : Option (Value × List Char) := (plainFloat? cs).or (specialFloat? cs)

/-! ## Dates and times -/

/-- A number of exactly `count` digits. -/
def fixed? (count : Nat) (cs : List Char) : Option (Nat × List Char) :=
  let digits := cs.take count
  if digits.length = count ∧ digits.all Char.isDigit then
    some (valueOf 10 digits, cs.drop count)
  else none

/-- A number of two digits within bounds. -/
def twoDigits? (low high : Nat) (cs : List Char) : Option (Nat × List Char) :=
  (fixed? 2 cs).filter fun (n, _) => low ≤ n && n ≤ high

def mark? (mark : Char) : List Char → Option (List Char)
  | c :: rest => if c = mark then some rest else none
  | [] => none

def isLeapYear (year : Nat) : Bool := year % 4 == 0 && (year % 100 != 0 || year % 400 == 0)

def daysIn (year month : Nat) : Nat :=
  if month = 2 then if isLeapYear year then 29 else 28
  else if month = 4 ∨ month = 6 ∨ month = 9 ∨ month = 11 then 30
  else 31

def date? (cs : List Char) : Option (List Char) := do
  let (year, cs) ← fixed? 4 cs
  let (month, cs) ← twoDigits? 1 12 (← mark? '-' cs)
  let (_, rest) ← twoDigits? 1 (daysIn year month) (← mark? '-' cs)
  some rest

def time? (cs : List Char) : Option (List Char) := do
  let (_, cs) ← twoDigits? 0 23 cs
  let (_, cs) ← twoDigits? 0 59 (← mark? ':' cs)
  let (_, rest) ← twoDigits? 0 60 (← mark? ':' cs)
  match rest with
  | '.' :: c :: more => if c.isDigit then some (more.dropWhile Char.isDigit) else some rest
  | _ => some rest

def offset? : List Char → Option (List Char)
  | c :: rest =>
    if c = 'Z' ∨ c = 'z' then some rest
    else if c = '+' ∨ c = '-' then do
      let (_, cs) ← twoDigits? 0 23 rest
      let (_, rest) ← twoDigits? 0 59 (← mark? ':' cs)
      some rest
    else none
  | [] => none

/-- The time after a date, if there is one. -/
def timeOfDate (cs : List Char) : List Char :=
  match cs with
  | c :: rest =>
    if c = 'T' ∨ c = 't' ∨ c = ' ' then
      match time? rest with
      | some rest => (offset? rest).getD rest
      | none => cs
    else cs
  | [] => []

def datetime? (cs : List Char) : Option (Value × List Char) :=
  match date? cs with
  | some rest => some (.datetime, timeOfDate rest)
  | none => (time? cs).map fun rest => (.datetime, rest)

/-- A value that starts with a sign or a digit. -/
def numeric? (cs : List Char) : Option (Value × List Char) :=
  ((datetime? cs).or (float? cs)).or (integer? cs)

end FirmwareTrace.Toml
