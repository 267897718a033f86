import FirmwareTrace.Json.Basic
import FirmwareTrace.Text.Numeral

/-! # Printed JSON

One printer for two layouts: the compact one, and one with a line to each member
and two blanks to each level.  An empty array or object takes one line in both.
-/
namespace FirmwareTrace.Json

/-- The characters of a string value for one of the text. -/
def escaped (c : Char) : List Char :=
  match c with
  | '"' => ['\\', '"']
  | '\\' => ['\\', '\\']
  | '\x08' => ['\\', 'b']
  | '\x0c' => ['\\', 'f']
  | '\n' => ['\\', 'n']
  | '\r' => ['\\', 'r']
  | '\t' => ['\\', 't']
  | c =>
    if c < ' ' then ['\\', 'u'] ++ Numeral.padLeft '0' 4 (Numeral.hex c.toNat) else [c]

def stringChars (text : String) : List Char := '"' :: text.toList.flatMap escaped ++ ['"']

structure Layout where
  /-- What stands before a member, or before the end, at a level. -/
  lineBreak : Nat → List Char
  colon : List Char

def Layout.compact : Layout := ⟨fun _ => [], [':']⟩

def Layout.indented : Layout := ⟨fun level => '\n' :: List.replicate (2 * level) ' ', [':', ' ']⟩

mutual

def chars (layout : Layout) (level : Nat) : Json String → List Char
  | .null => "null".toList
  | .bool value => (if value then "true" else "false").toList
  | .number written => written
  | .string text => stringChars text
  | .array [] => ['[', ']']
  | .array (item :: rest) =>
    '[' :: layout.lineBreak (level + 1) ++ chars layout (level + 1) item
      ++ itemChars layout (level + 1) rest ++ layout.lineBreak level ++ [']']
  | .object [] => ['\x7b', '\x7d']
  | .object ((name, value) :: rest) =>
    '\x7b' :: layout.lineBreak (level + 1) ++ stringChars name ++ layout.colon
      ++ chars layout (level + 1) value ++ memberChars layout (level + 1) rest
      ++ layout.lineBreak level ++ ['\x7d']

/-- The items after the first. -/
def itemChars (layout : Layout) (level : Nat) : List (Json String) → List Char
  | [] => []
  | item :: rest =>
    ',' :: layout.lineBreak level ++ chars layout level item ++ itemChars layout level rest

/-- The members after the first. -/
def memberChars (layout : Layout) (level : Nat) : List (String × Json String) → List Char
  | [] => []
  | (name, value) :: rest =>
    ',' :: layout.lineBreak level ++ stringChars name ++ layout.colon
      ++ chars layout level value ++ memberChars layout level rest

end

/-- The number with the given value. -/
def ofNat (n : Nat) : Json String := .number (Numeral.decimal n)

/-- The text of a value in a layout. -/
def print (layout : Layout) (value : Json String) : String :=
  String.ofList (chars layout 0 value)

end FirmwareTrace.Json
