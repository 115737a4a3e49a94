import SchemaBridge.Failure

/-!
# Conversion options

The options of a conversion and the two dialects of JSON schemas. Options arrive as a table of named
values; `Options.ofFields` checks the names first, then the list of array names, then the dialect.
-/

set_option autoImplicit false

namespace SchemaBridge

/-- A JSON schema dialect. -/
inductive Dialect where
  | draft07
  | draft202012
deriving DecidableEq, Repr

namespace Dialect

/-- The name by which options choose the dialect. -/
def name : Dialect → String
  | .draft07 => "draft-07"
  | .draft202012 => "2020-12"

/-- The identifier of the dialect's schema of schemas. -/
def schemaUri : Dialect → String
  | .draft07 => "http://json-schema.org/draft-07/schema#"
  | .draft202012 => "https://json-schema.org/draft/2020-12/schema"

/-- The keyword under which definitions stand. -/
def definitionsKey : Dialect → String
  | .draft07 => "definitions"
  | .draft202012 => "$defs"

/-- What references to definitions start with. -/
def referenceStem : Dialect → String
  | .draft07 => "#/definitions/"
  | .draft202012 => "#/$defs/"

/-- The reference to the definition of a type. -/
def reference (d : Dialect) (typeName : String) : String := d.referenceStem ++ typeName

/-- The dialect with a name. -/
def ofName? (name : String) : Option Dialect :=
  [draft07, draft202012].find? (·.name = name)

end Dialect

/-- The options of a conversion. -/
structure Options where
  /-- Names of elements that become arrays when they are unbounded. -/
  arrayElementNames : List String := []
  /-- Every unbounded element of a sequence becomes an array. -/
  treatUnboundedAsArray : Bool := false
  /-- Schemas say which type they come from. -/
  showOriginTypes : Bool := false
  /-- Entries that replace or extend the table of built-in types. -/
  typeMappings : Fields (Fields Json) := []
  dialect : Dialect := .draft202012

namespace Options

/-- The names of the options, in their order. -/
def optionNames : List String :=
  ["array_element_names", "treat_unbounded_as_array", "show_origin_types", "type_mappings",
    "schema_dialect"]

/-- The name is one of the array names. -/
def isArrayName (options : Options) (name : String) : Bool :=
  options.arrayElementNames.contains name

/-- A list of names, given as an array, as the keys of a table, or as a text that is taken
character by character. -/
def namesOf : Json → Except Failure (List String)
  | .arr items => .ok (items.map Json.plain)
  | .str text => .ok (text.toList.map String.singleton)
  | .obj fields => .ok (Fields.names fields)
  | .null | .bool _ | .int _ | .double _ => .error .namesExpected

/-- Strings in the order of their code points. -/
def sorted (names : List String) : List String :=
  names.mergeSort fun a b => decide (a ≤ b)

/-- The dialect that a value names. -/
def dialectOf (value : Json) : Except Failure Dialect :=
  match value.text?.bind Dialect.ofName? with
  | some dialect => .ok dialect
  | none => .error (.invalidDialect value)

/-- The flag under a name; a missing one is off. -/
def flag (fields : Fields Json) (name : String) : Bool :=
  match fields.value? name with
  | some (.bool value) => value
  | _ => false

/-- The type mappings under their name: objects by type name. -/
def mappingsOf (fields : Fields Json) : Fields (Fields Json) :=
  (((fields.value? "type_mappings").bind Json.fields?).getD []).map fun entry =>
    (entry.1, entry.2.fields?.getD [])

/-- The options written in a table of named values. -/
def ofFields (fields : Fields Json) : Except Failure Options := do
  let unknown := (Fields.names fields).filter fun name => !optionNames.contains name
  if !unknown.isEmpty then throw (.unknownOptions (sorted unknown))
  let arrayElementNames ← namesOf ((fields.value? "array_element_names").getD (.arr []))
  let dialect ←
    match fields.value? "schema_dialect" with
    | none => pure .draft202012
    | some value => dialectOf value
  return {
    arrayElementNames
    treatUnboundedAsArray := flag fields "treat_unbounded_as_array"
    showOriginTypes := flag fields "show_origin_types"
    typeMappings := mappingsOf fields
    dialect }

/-- Optional options: without any, the defaults. -/
def resolve (fields? : Option (Fields Json)) : Except Failure Options :=
  match fields? with
  | none => .ok {}
  | some fields => ofFields fields

end Options

end SchemaBridge
