import FirmwareTrace.Json.Basic
import FirmwareTrace.Text.Numeral

/-! # Reading JSON

A text is cut into tokens, and a machine with a stack of open containers takes
one token after the other.  A string with an escape that names no character, such
as half of a surrogate pair, is read as a string without a text.
-/
namespace FirmwareTrace.Json

/-- A value as it is read. -/
abbrev Document := Json (Option String)

/-! ## Tokens -/

inductive Token
  /-- A value that is no container. -/
  | atom (value : Document)
  | mark (c : Char)

/-- A character of a string: one that stands for itself, or a number after `\u`. -/
inductive StringUnit
  | char (c : Char)
  | code (n : Nat)

def escape? : Char → Option Char
  | '"' => some '"'
  | '\\' => some '\\'
  | '/' => some '/'
  | 'b' => some '\x08'
  | 'f' => some '\x0c'
  | 'n' => some '\n'
  | 'r' => some '\r'
  | 't' => some '\t'
  | _ => none

/-- The rest of a string, up to its closing quote. -/
def units : List Char → Option (List StringUnit × List Char)
  | [] => none
  | '"' :: rest => some ([], rest)
  | '\\' :: 'u' :: a :: b :: c :: d :: rest =>
    match Numeral.ofDigits? 16 [a, b, c, d], units rest with
    | some n, some (us, rest) => some (.code n :: us, rest)
    | _, _ => none
  | '\\' :: c :: rest =>
    match escape? c, units rest with
    | some c, some (us, rest) => some (.char c :: us, rest)
    | _, _ => none
  | c :: rest => if c < ' ' then none else (units rest).map fun r => (.char c :: r.1, r.2)

def isHighSurrogate (n : Nat) : Bool := 0xd800 ≤ n && n < 0xdc00

def isLowSurrogate (n : Nat) : Bool := 0xdc00 ≤ n && n < 0xe000

/-- The characters of a string; two halves of a surrogate pair make one. -/
def unitChars : List StringUnit → Option (List Char)
  | [] => some []
  | .char c :: rest => (unitChars rest).map (c :: ·)
  | [.code n] => if isHighSurrogate n || isLowSurrogate n then none else some [Char.ofNat n]
  | .code n :: .code m :: rest =>
    if isHighSurrogate n then
      if isLowSurrogate m then
        (unitChars rest).map (Char.ofNat (0x10000 + (n - 0xd800) * 0x400 + (m - 0xdc00)) :: ·)
      else none
    else if isLowSurrogate n then none
    else (unitChars (.code m :: rest)).map (Char.ofNat n :: ·)
  | .code n :: .char c :: rest =>
    if isHighSurrogate n || isLowSurrogate n then none
    else (unitChars (.char c :: rest)).map (Char.ofNat n :: ·)

/-- A nonempty run of digits. -/
def digits? (cs : List Char) : Option (List Char × List Char) :=
  match cs.span Char.isDigit with
  | ([], _) => none
  | run => some run

/-- The integer part of a number; a zero in front stands alone. -/
def integer? (cs : List Char) : Option (List Char × List Char) :=
  match digits? cs with
  | some ('0' :: _ :: _, _) => none
  | run => run

def fraction? : List Char → Option (List Char × List Char)
  | '.' :: rest => (digits? rest).map fun r => ('.' :: r.1, r.2)
  | cs => some ([], cs)

def exponent? : List Char → Option (List Char × List Char)
  | c :: rest =>
    if c = 'e' ∨ c = 'E' then
      match rest with
      | s :: more =>
        if s = '+' ∨ s = '-' then (digits? more).map fun r => (c :: s :: r.1, r.2)
        else (digits? rest).map fun r => (c :: r.1, r.2)
      | [] => none
    else some ([], c :: rest)
  | [] => some ([], [])

def unsigned? (cs : List Char) : Option (List Char × List Char) := do
  let (whole, rest) ← integer? cs
  let (fraction, rest) ← fraction? rest
  let (exponent, rest) ← exponent? rest
  some (whole ++ fraction ++ exponent, rest)

def number? : List Char → Option (List Char × List Char)
  | '-' :: rest => (unsigned? rest).map fun r => ('-' :: r.1, r.2)
  | cs => unsigned? cs

def keywords : List (String × Document) :=
  [("null", .null), ("true", .bool true), ("false", .bool false)]

/-- The word at the front. -/
def word? (cs : List Char) : Option (Token × List Char) :=
  (keywords.find? fun w => w.1.toList.isPrefixOf cs).map fun w => (.atom w.2, cs.drop w.1.length)

def isMark (c : Char) : Bool := c ∈ ['[', ']', '\x7b', '\x7d', ',', ':']

def isBlank (c : Char) : Bool := c ∈ [' ', '\t', '\n', '\r']

/-- The token at the front; nothing in place of a token is a blank. -/
def token? : List Char → Option (Option Token × List Char)
  | [] => none
  | c :: rest =>
    if isBlank c then some (none, rest)
    else if isMark c then some (some (.mark c), rest)
    else if c = '"' then
      (units rest).map fun r =>
        (some (.atom (.string ((unitChars r.1).map String.ofList))), r.2)
    else if c = '-' ∨ c.isDigit then
      (number? (c :: rest)).map fun r => (some (.atom (.number r.1)), r.2)
    else (word? (c :: rest)).map fun r => (some r.1, r.2)

/-- All tokens of a text. -/
def tokens? (cs : List Char) : Option (List Token) :=
  if cs = [] then some []
  else
    match token? cs with
    | none => none
    | some (token, rest) =>
      if rest.length < cs.length then (tokens? rest).map (token.toList ++ ·) else none
termination_by cs.length

/-! ## Values -/

/-- An open container and what it holds so far, the latest first. -/
inductive Frame
  | array (items : List Document)
  /-- The value of `name` is still to come. -/
  | object (members : List (Option String × Document)) (name : Option String)

/-- What the next token has to be. -/
inductive Expecting
  | value
  | itemOrEnd
  | nameOrEnd
  | name (members : List (Option String × Document))
  | colon (members : List (Option String × Document)) (name : Option String)
  | commaOrEnd (last : Document)

def startValue (stack : List Frame) : Token → Option (Expecting × List Frame)
  | .atom v => some (.commaOrEnd v, stack)
  | .mark '[' => some (.itemOrEnd, stack)
  | .mark '\x7b' => some (.nameOrEnd, stack)
  | .mark _ => none

/-- Goes on after a value in the innermost container. -/
def afterValue (last : Document) : List Frame → Char → Option (Expecting × List Frame)
  | .array items :: stack, ',' => some (.value, .array (last :: items) :: stack)
  | .array items :: stack, ']' => some (.commaOrEnd (.array (last :: items).reverse), stack)
  | .object members name :: stack, ',' => some (.name ((name, last) :: members), stack)
  | .object members name :: stack, '\x7d' =>
    some (.commaOrEnd (.object ((name, last) :: members).reverse), stack)
  | _, _ => none

def step (stack : List Frame) : Expecting → Token → Option (Expecting × List Frame)
  | .value, token => startValue stack token
  | .itemOrEnd, .mark ']' => some (.commaOrEnd (.array []), stack)
  | .itemOrEnd, token => startValue (.array [] :: stack) token
  | .nameOrEnd, .mark '\x7d' => some (.commaOrEnd (.object []), stack)
  | .nameOrEnd, .atom (.string name) => some (.colon [] name, stack)
  | .name members, .atom (.string name) => some (.colon members name, stack)
  | .colon members name, .mark ':' => some (.value, .object members name :: stack)
  | .commaOrEnd last, .mark c => afterValue last stack c
  | _, _ => none

def run (expecting : Expecting) (stack : List Frame) : List Token → Option Document
  | [] =>
    match expecting, stack with
    | .commaOrEnd last, [] => some last
    | _, _ => none
  | token :: rest =>
    match step stack expecting token with
    | some (next, stack) => run next stack rest
    | none => none

/-- The value that a text holds, with nothing but blanks around it. -/
def read? (text : String) : Option Document := (tokens? text.toList).bind (run .value [])

end FirmwareTrace.Json
