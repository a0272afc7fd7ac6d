import EntryTree.Json.Basic

/-!
# Writing JSON documents

Documents are written without spaces and with the fields in their order. In texts only quotes,
backslashes and controls are escaped. A double is written as its exact decimal value with an
exponent, so that it reads as a double again.
-/

namespace EntryTree.Json

/-- A hexadecimal digit. -/
def hexDigit (value : Nat) : Char :=
  if value < 10 then Char.ofNat ('0'.toNat + value) else Char.ofNat ('a'.toNat + value - 10)

/-- How a character is written inside a text. -/
def writeChar (c : Char) : List Char :=
  if c = '"' || c = '\\' then ['\\', c]
  else if c = '\n' then ['\\', 'n']
  else if c = '\r' then ['\\', 'r']
  else if c = '\t' then ['\\', 't']
  else if c = '\x08' then ['\\', 'b']
  else if c = '\x0c' then ['\\', 'f']
  else if c.toNat < 0x20 then
    ['\\', 'u', '0', '0', hexDigit (c.toNat / 16), hexDigit (c.toNat % 16)]
  else [c]

/-- A text between quotes. -/
def writeText (text : String) : String :=
  String.ofList ('"' :: text.toList.flatMap writeChar ++ ['"'])

/-- A number. Infinity has no written form and reads as nothing. -/
def Number.write : Number → String
  | .integer value => toString value
  | .real value =>
    match value.decimal? with
    | none => "null"
    | some (negative, digits, places) =>
      (if negative then "-" else "") ++ toString digits ++ ".0e-" ++ toString places

mutual

/-- A value as a document. -/
def write : Json → String
  | .null => "null"
  | .bool value => if value then "true" else "false"
  | .number value => value.write
  | .text value => writeText value
  | .array items => "[" ++ writeItems items ++ "]"
  | .object fields => "\x7b" ++ writeFields fields ++ "\x7d"

/-- Items, separated by commas. -/
def writeItems : List Json → String
  | [] => ""
  | [item] => write item
  | item :: items => write item ++ "," ++ writeItems items

/-- Fields, separated by commas. -/
def writeFields : List (String × Json) → String
  | [] => ""
  | [(name, value)] => writeText name ++ ":" ++ write value
  | (name, value) :: fields => writeText name ++ ":" ++ write value ++ "," ++ writeFields fields

end

end EntryTree.Json
