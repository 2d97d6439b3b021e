/-
# SealedTransfer.Json.Basic — JSON values and their compact text

The messages of this library hold texts, whole numbers, truth values, lists and named members. A JSON
document may hold more: fractions, exponents, a negative zero, and strings whose escapes name half of
a surrogate pair. Such values may be passed over but no message reads them, so they are all the one
value `unreadable`. The text of a value has no blanks; in strings only quotes, backslashes and
controls below U+0020 are escaped.
-/
import SealedTransfer.Text.Digits

namespace SealedTransfer

/-- A JSON value, as far as messages can tell values apart. -/
inductive Json where
  | null
  | bool (value : Bool)
  | integer (value : Int)
  | string (text : String)
  | array (items : List Json)
  | object (members : List (String × Json))
  /-- A well-formed value that no message reads. -/
  | unreadable
deriving Repr

namespace Json

open Text (digits fixedDigits)

/-- One character inside a JSON string. -/
def escapeChar (c : Char) : List Char :=
  if c = '"' then ['\\', '"']
  else if c = '\\' then ['\\', '\\']
  else if c.toNat = 8 then ['\\', 'b']
  else if c.toNat = 12 then ['\\', 'f']
  else if c = '\n' then ['\\', 'n']
  else if c = '\r' then ['\\', 'r']
  else if c = '\t' then ['\\', 't']
  else if c.toNat < 0x20 then ['\\', 'u'] ++ fixedDigits 16 4 c.toNat
  else [c]

/-- A text as a JSON string. -/
def stringText (text : String) : List Char :=
  '"' :: text.toList.flatMap escapeChar ++ ['"']

mutual

/-- The compact text of a value. -/
def text : Json → List Char
  | .null => ['n', 'u', 'l', 'l']
  | .bool true => ['t', 'r', 'u', 'e']
  | .bool false => ['f', 'a', 'l', 's', 'e']
  | .integer value => Text.integer value
  | .string value => stringText value
  | .array [] => ['[', ']']
  | .array (item :: items) => '[' :: text item ++ itemsText items
  | .object [] => ['{', '}']
  | .object ((name, value) :: members) =>
    '{' :: stringText name ++ ':' :: text value ++ membersText members
  | .unreadable => ['-', '0']

/-- The items after the first, a comma before each, and the closing bracket. -/
def itemsText : List Json → List Char
  | [] => [']']
  | item :: items => ',' :: text item ++ itemsText items

/-- The members after the first, a comma before each, and the closing brace. -/
def membersText : List (String × Json) → List Char
  | [] => ['}']
  | (name, value) :: members =>
    ',' :: stringText name ++ ':' :: text value ++ membersText members

end

/-- The compact text of a value, as a string. -/
def compact (value : Json) : String := String.ofList (text value)

end Json

end SealedTransfer
