import SchemaBridge.Failure
import SchemaBridge.Scalar.Numeral
import SchemaBridge.Text.Blank

/-!
# Reading scalar texts

Three readers of short texts, with their different limits:

* `Scalar.ofText` reads the text of an instance document as a truth value, a number or itself.
  Digits may come from any script, one final line feed is overlooked, and a whole number of more
  than `longestWhole` digits is a failure.
* `facetNumber?` reads the value of a facet. Only ASCII digits count, blanks around the text are
  overlooked, an overlong whole number is read as a double, and infinite values are dropped.
* `occurrenceCount?` reads an occurrence bound: a whole number whose digits may be grouped by single
  underscores.
-/

set_option autoImplicit false

namespace SchemaBridge

/-- The greatest number of digits, leading zeros included, of a whole number that is read. -/
def longestWhole : Nat := 4300

/-- What the text of an element or attribute denotes. -/
inductive Scalar where
  | truth (value : Bool)
  | number (value : Number)
  | text (value : String)

/-- A number as a JSON value. -/
def Number.toJson : Number → Json
  | .whole value => .int value
  | .real value => .double value

namespace Scalar

/-- A scalar as a JSON value. -/
def toJson : Scalar → Json
  | .truth value => .bool value
  | .number value => value.toJson
  | .text value => .str value

/-- The characters without one line feed at the end. -/
def withoutFinalNewline (cs : List Char) : List Char :=
  if cs.getLast? = some '\n' then cs.dropLast else cs

/-- The value of a numeral, unless it is a whole number of too many digits. -/
def ofNumeral (n : Numeral) : Except Failure Number :=
  if n.isWhole then
    if longestWhole < n.before.length then .error .integerTooLong else .ok (.whole n.toInt)
  else .ok (.real n.toBinary64)

/-- The scalar denoted by a text. -/
def ofText (text : String) : Except Failure Scalar :=
  if text = "true" then .ok (.truth true)
  else if text = "false" then .ok (.truth false)
  else
    match Numeral.read? Text.digitValue? (withoutFinalNewline text.toList) with
    | some n => (ofNumeral n).map .number
    | none => .ok (.text text)

end Scalar

/-- The number denoted by a facet value. -/
def facetNumber? (text : String) : Option Number := do
  let n ← Numeral.read? Text.asciiDigitValue? (Text.strip text.toList)
  if n.isWhole && n.before.length ≤ longestWhole then return .whole n.toInt
  else if n.toBinary64.isFinite then return .real n.toBinary64
  else none

/-- A blank around an occurrence bound: white space, but not the information separators. -/
def isBoundBlank (c : Char) : Bool :=
  Text.isBlank c && !(0x1c ≤ c.toNat && c.toNat ≤ 0x1f)

/-- The values of digits in which a single underscore may stand between two digits. -/
def groupedDigits? : List Char → Option (List Nat)
  | [] => none
  | [c] => (Text.digitValue? c).map ([·])
  | c :: '_' :: rest => do return (← Text.digitValue? c) :: (← groupedDigits? rest)
  | c :: rest => do return (← Text.digitValue? c) :: (← groupedDigits? rest)

/-- The whole number denoted by an occurrence bound. -/
def occurrenceCount? (text : String) : Option Int := do
  let trimmed := ((text.toList.dropWhile isBoundBlank).reverse.dropWhile isBoundBlank).reverse
  let (negative, unsigned) := Numeral.takeSign trimmed
  let digits ← groupedDigits? unsigned
  if digits.length ≤ longestWhole then return Numeral.signed negative (Numeral.digitsValue digits)
  else none

end SchemaBridge
