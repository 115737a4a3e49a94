import SchemaBridge.Decimal.Layout
import SchemaBridge.Json.Basic

/-!
# Indented JSON text

Every item of an array and every field of an object stands on a line of its own, two blanks deeper
than its container; an empty container is written without a line break. There are two ways to write
characters: `Escaping.ascii` leaves only printable ASCII in the text, `Escaping.minimal` escapes
what the grammar forbids in a string and nothing else.
-/

set_option autoImplicit false

namespace SchemaBridge

/-- Which characters of a string are written as escapes. -/
inductive Escaping where
  /-- Everything outside printable ASCII. -/
  | ascii
  /-- Only quotation marks, backslashes and the characters below the blank. -/
  | minimal
deriving DecidableEq

namespace Json

/-- Four lower-case hexadecimal digits. -/
def hex4 (n : Nat) : List Char :=
  let digits := Nat.toDigits 16 n
  List.replicate (4 - digits.length) '0' ++ digits

/-- A code point as one escape, or as two surrogate escapes beyond the basic plane. -/
def unicodeEscape (code : Nat) : List Char :=
  if code < 0x10000 then '\\' :: 'u' :: hex4 code
  else
    '\\' :: 'u' :: (hex4 (0xD800 + (code - 0x10000) / 0x400) ++
      '\\' :: 'u' :: hex4 (0xDC00 + (code - 0x10000) % 0x400))

/-- The written form of one character of a string. -/
def writtenChar (escaping : Escaping) (c : Char) : List Char :=
  if c = '"' then ['\\', '"']
  else if c = '\\' then ['\\', '\\']
  else if c = '\n' then ['\\', 'n']
  else if c = '\r' then ['\\', 'r']
  else if c = '\t' then ['\\', 't']
  else if c = '\x08' then ['\\', 'b']
  else if c = '\x0c' then ['\\', 'f']
  else if c.toNat < 0x20 then unicodeEscape c.toNat
  else if escaping = .ascii ∧ 0x7e < c.toNat then unicodeEscape c.toNat
  else [c]

/-- A string in quotation marks. -/
def writtenString (escaping : Escaping) (text : String) : String :=
  "\"" ++ String.ofList (text.toList.flatMap (writtenChar escaping)) ++ "\""

/-- A line break and the indentation of a depth. -/
def lineStart (depth : Nat) : String :=
  String.ofList ('\n' :: List.replicate (2 * depth) ' ')

mutual

/-- The text of a value whose container is at the given depth. -/
def write (escaping : Escaping) (depth : Nat) : Json → String
  | .null => "null"
  | .bool true => "true"
  | .bool false => "false"
  | .int value => toString value
  | .double value => Layout.json.write value
  | .str text => writtenString escaping text
  | .arr [] => "[]"
  | .arr (item :: rest) =>
      "[" ++ lineStart (depth + 1) ++ write escaping (depth + 1) item ++
        writeItems escaping (depth + 1) rest ++ lineStart depth ++ "]"
  | .obj [] => "\x7b\x7d"
  | .obj (field :: rest) =>
      "\x7b" ++ lineStart (depth + 1) ++ writeField escaping (depth + 1) field ++
        writeFields escaping (depth + 1) rest ++ lineStart depth ++ "\x7d"

/-- The items after the first one, each after a comma and a line break. -/
def writeItems (escaping : Escaping) (depth : Nat) : List Json → String
  | [] => ""
  | item :: rest =>
      "," ++ lineStart depth ++ write escaping depth item ++ writeItems escaping depth rest

/-- A name, a colon and a value. -/
def writeField (escaping : Escaping) (depth : Nat) : String × Json → String
  | (name, value) => writtenString escaping name ++ ": " ++ write escaping depth value

/-- The fields after the first one, each after a comma and a line break. -/
def writeFields (escaping : Escaping) (depth : Nat) : List (String × Json) → String
  | [] => ""
  | field :: rest =>
      "," ++ lineStart depth ++ writeField escaping depth field ++ writeFields escaping depth rest

end

/-- The indented text of a value. -/
def pretty (escaping : Escaping) (value : Json) : String :=
  write escaping 0 value

end Json

end SchemaBridge
