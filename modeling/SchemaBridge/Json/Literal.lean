import SchemaBridge.Decimal.Layout
import SchemaBridge.Json.Basic
import SchemaBridge.Text.Printable

/-!
# Quoted values in messages

Messages show the value they complain about. Strings stand in single quotation marks, or in double
ones when they hold a single mark and no double one; characters that are not printable are escaped.
Lists and tables are written on one line. `Json.plain` is the same text except that a string at the
top stands as it is: it is also how an attribute value that is not a string is read as one.
-/

set_option autoImplicit false

namespace SchemaBridge

namespace Json

/-- The spellings of null and the truth values, and the layout of doubles. -/
def literalLayout : Layout := { Layout.json with infinity := "inf" }

/-- Lower-case hexadecimal digits, at least `width` of them. -/
def hexDigits (width n : Nat) : List Char :=
  Layout.padded width (Nat.toDigits 16 n)

/-- A character inside quotation marks of the given kind. -/
def quotedChar (mark c : Char) : List Char :=
  if c = mark ∨ c = '\\' then ['\\', c]
  else if c = '\n' then ['\\', 'n']
  else if c = '\r' then ['\\', 'r']
  else if c = '\t' then ['\\', 't']
  else if Text.isPrintable c then [c]
  else if c.toNat < 0x100 then '\\' :: 'x' :: hexDigits 2 c.toNat
  else if c.toNat < 0x10000 then '\\' :: 'u' :: hexDigits 4 c.toNat
  else '\\' :: 'U' :: hexDigits 8 c.toNat

/-- A text in quotation marks. -/
def quoted (text : String) : String :=
  let cs := text.toList
  let mark := if cs.contains '\'' && !cs.contains '"' then '"' else '\''
  String.ofList (mark :: (cs.flatMap (quotedChar mark) ++ [mark]))

/-- Pieces with a comma and a blank between them. -/
def commaSeparated (pieces : List String) : String :=
  String.intercalate ", " pieces

mutual

/-- The text of a value inside a message. -/
def literal : Json → String
  | .null => "None"
  | .bool true => "True"
  | .bool false => "False"
  | .int value => toString value
  | .double value => literalLayout.write value
  | .str text => quoted text
  | .arr items => "[" ++ commaSeparated (literalItems items) ++ "]"
  | .obj fields => "\x7b" ++ commaSeparated (literalFields fields) ++ "\x7d"

/-- The texts of the items of an array. -/
def literalItems : List Json → List String
  | [] => []
  | item :: rest => literal item :: literalItems rest

/-- The texts of the fields of an object, each a quoted name, a colon and a value. -/
def literalFields : List (String × Json) → List String
  | [] => []
  | (name, value) :: rest => (quoted name ++ ": " ++ literal value) :: literalFields rest

end

/-- A string as it is, any other value as a literal. -/
def plain : Json → String
  | .str text => text
  | value => literal value

end Json

end SchemaBridge
