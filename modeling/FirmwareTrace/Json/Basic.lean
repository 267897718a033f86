/-! # JSON values

A value whose strings are of a type of their own, since a text that is read may
hold escapes that name no character.  Numbers stand as they are written, and
members keep their order.
-/
namespace FirmwareTrace

inductive Json (Text : Type)
  | null
  | bool (value : Bool)
  | number (written : List Char)
  | string (text : Text)
  | array (items : List (Json Text))
  | object (members : List (Text × Json Text))

end FirmwareTrace
