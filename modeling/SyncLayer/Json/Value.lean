import SyncLayer.Binary64.Layout

/-!
# Json values

The values of the JSON data format and their compact text. Numbers are naturals or binary
numbers; the members of an object keep their order.
-/

namespace SyncLayer

/-- A JSON value. -/
inductive Json where
  | null
  | boolean (b : Bool)
  | natural (n : Nat)
  | real (x : Binary64)
  | text (s : String)
  | array (items : List Json)
  | object (members : List (String × Json))

namespace Json

/-- The escape of a character by four hexadecimal digits. -/
def codeEscape (c : Char) : List Char :=
  let ds := Nat.toDigits 16 c.toNat
  ['\\', 'u'] ++ List.replicate (4 - ds.length) '0' ++ ds

/-- How a character is written in a text. -/
def escapeChar (c : Char) : List Char :=
  if c = '"' then ['\\', '"']
  else if c = '\\' then ['\\', '\\']
  else if c = '\x08' then ['\\', 'b']
  else if c = '\x0c' then ['\\', 'f']
  else if c = '\n' then ['\\', 'n']
  else if c = '\r' then ['\\', 'r']
  else if c = '\t' then ['\\', 't']
  else if c < ' ' then codeEscape c
  else [c]

/-- A text with the quotes around it. -/
def textChars (s : List Char) : List Char :=
  '"' :: (s.flatMap escapeChar ++ ['"'])

/-- The text of a number; what is no finite number is written as null. -/
def realChars (x : Binary64) : List Char :=
  if x.isFinite then Binary64.Layout.json.text x else "null".toList

mutual

/-- The compact text of a value. -/
def chars : Json → List Char
  | null => "null".toList
  | boolean true => "true".toList
  | boolean false => "false".toList
  | natural n => Decimal.digits n
  | real x => realChars x
  | text s => textChars s.toList
  | array items => '[' :: (itemsChars items ++ [']'])
  | object members => '\x7b' :: (membersChars members ++ ['\x7d'])

/-- The items of an array with commas between them. -/
def itemsChars : List Json → List Char
  | [] => []
  | [item] => item.chars
  | item :: rest => item.chars ++ ',' :: itemsChars rest

/-- The members of an object with commas between them. -/
def membersChars : List (String × Json) → List Char
  | [] => []
  | [(name, value)] => textChars name.toList ++ ':' :: value.chars
  | (name, value) :: rest =>
    textChars name.toList ++ ':' :: (value.chars ++ ',' :: membersChars rest)

end

/-- The compact text of a value, as a string. -/
def compact (v : Json) : String :=
  String.ofList v.chars

end Json

end SyncLayer
