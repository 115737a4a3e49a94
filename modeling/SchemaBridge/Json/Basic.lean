import SchemaBridge.Decimal.Binary64
import SchemaBridge.Fields

/-!
# JSON values

The value type that documents are read from and results are written in. Whole numbers are exact and
kept apart from doubles: `10` and `10.0` are different values. Objects keep the order of their
fields.
-/

set_option autoImplicit false

namespace SchemaBridge

/-- A JSON value with exact integers. -/
inductive Json where
  | null
  | bool (value : Bool)
  | int (value : Int)
  | double (value : Binary64)
  | str (text : String)
  | arr (items : List Json)
  | obj (fields : List (String × Json))
deriving Inhabited

namespace Json

/-- The fields of an object. -/
def fields? : Json → Option (Fields Json)
  | .obj fields => some fields
  | _ => none

/-- The items of an array. -/
def items? : Json → Option (List Json)
  | .arr items => some items
  | _ => none

/-- The text of a string. -/
def text? : Json → Option String
  | .str text => some text
  | _ => none

/-- Neither null nor false, nor zero, nor empty. -/
def isPresent : Json → Bool
  | .null => false
  | .bool value => value
  | .int value => value ≠ 0
  | .double value => value.code ≠ 0
  | .str text => text ≠ ""
  | .arr items => !items.isEmpty
  | .obj fields => !fields.isEmpty

/-- An array of strings. -/
def ofNames (names : List String) : Json :=
  .arr (names.map .str)

/-- A value or null. -/
def ofOption {α : Type} (encode : α → Json) : Option α → Json
  | none => .null
  | some value => encode value

end Json

end SchemaBridge
