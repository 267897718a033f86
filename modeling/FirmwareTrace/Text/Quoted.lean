import FirmwareTrace.Text.Numeral
import FirmwareTrace.Text.Unprintable

/-! # Quoted paths

A path in a message stands between double quotes.  Double quotes, backslashes and
the usual controls are escaped by a backslash, and any other unprintable character
is shown by its number; a single quote cannot end the text and stands as it is.
-/
namespace FirmwareTrace.Text

def quotedChar (c : Char) : List Char :=
  match c with
  | '\x00' => ['\\', '0']
  | '\t' => ['\\', 't']
  | '\r' => ['\\', 'r']
  | '\n' => ['\\', 'n']
  | '"' => ['\\', '"']
  | '\\' => ['\\', '\\']
  | c =>
    if isUnprintable c then ['\\', 'u', '\x7b'] ++ Numeral.hex c.toNat ++ ['\x7d'] else [c]

def quoted (text : String) : String :=
  String.ofList ('"' :: text.toList.flatMap quotedChar ++ ['"'])

end FirmwareTrace.Text
