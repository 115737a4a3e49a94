import SchemaBridge.Instance.Values
import SchemaBridge.Paths.Visits
import SchemaBridge.Xml.Encoding
import SchemaBridge.Xsd.Reader

/-!
# Reading instance documents

An instance document is read into values whose arrays and lists follow a schema, or lists of paths
and names that the caller gives. Explicit array paths shut out those of a schema; names count only
when there is neither a schema nor a path.
-/

set_option autoImplicit false

namespace SchemaBridge

open Xsd

/-- How an instance document is read. -/
structure ReadingOptions where
  /-- Names whose elements are always items of arrays; `none` when given as null. -/
  arrayElementNames? : Option (List String) := some []
  arrayElementPaths? : Option (List String) := none
  listElementPaths? : Option (List String) := none
  treatUnboundedAsArray : Bool := false
  /-- The schema to take paths from. -/
  schema? : Option Document := none
  /-- The options of a conversion, for their array policy. -/
  convertOptions? : Option (Fields Json) := none
  readsTexts : Bool := true
  readsAttributes : Bool := true

namespace ReadingOptions

/-- The names of the reading options. -/
def optionNames : List String :=
  ["array_element_names", "array_element_paths", "list_element_paths", "treat_unbounded_as_array",
    "convert_options", "parse_tag_value", "parse_attribute_value"]

/-- The list of names under a name of an option; null counts as no list. -/
def optionalNames (fields : Fields Json) (name : String) (default? : Option (List String)) :
    Except Failure (Option (List String)) :=
  match fields.value? name with
  | none => .ok default?
  | some .null => .ok none
  | some value => (Options.namesOf value).map some

/-- The reading options written in a table of named values. -/
def ofFields (fields : Fields Json) : Except Failure ReadingOptions := do
  if (Fields.names fields).any fun name => !optionNames.contains name then
    throw .unknownReadingOption
  let arrayElementNames? ← optionalNames fields "array_element_names" (some [])
  let arrayElementPaths? ← optionalNames fields "array_element_paths" none
  let listElementPaths? ← optionalNames fields "list_element_paths" none
  let isOn (name : String) : Bool :=
    match fields.value? name with
    | some (.bool value) => value
    | _ => true
  return {
    arrayElementNames?
    arrayElementPaths?
    listElementPaths?
    treatUnboundedAsArray := Options.flag fields "treat_unbounded_as_array"
    convertOptions? := (fields.value? "convert_options").bind Json.fields?
    readsTexts := isOn "parse_tag_value"
    readsAttributes := isOn "parse_attribute_value" }

/-- The array paths of a schema under the array policy of the reading options. -/
def schemaArrayPaths (options : ReadingOptions) (document : Document) :
    Except Failure (List String) :=
  match options.convertOptions? with
  | some fields => deriveArrayPaths document (some fields)
  | none =>
      match options.arrayElementNames? with
      | none => .error .namesExpected
      | some arrayElementNames =>
          let policy : Options :=
            { arrayElementNames, treatUnboundedAsArray := options.treatUnboundedAsArray }
          .ok (document.arrayPaths policy)

/-- The paths of elements that are always items of arrays. -/
def arrayPaths (options : ReadingOptions) : Except Failure (List String) :=
  match options.arrayElementPaths?, options.schema? with
  | some paths, _ => .ok paths
  | none, some document => options.schemaArrayPaths document
  | none, none => .ok []

/-- The names of elements that are always items of arrays, given the array paths. -/
def arrayNames (options : ReadingOptions) (arrayPaths : List String) :
    Except Failure (List String) :=
  if options.schema?.isSome || !arrayPaths.isEmpty then .ok []
  else
    match options.arrayElementNames?.getD [], options.convertOptions? with
    | name :: names, _ => .ok (name :: names)
    | [], some fields => (Options.ofFields fields).map Options.arrayElementNames
    | [], none => .ok []

/-- The paths of elements whose text is a list. -/
def listPaths (options : ReadingOptions) : List String :=
  match options.listElementPaths?, options.schema? with
  | some paths, _ => paths
  | none, some document => deriveListPaths document
  | none, none => []

/-- The shape that the options give to values. -/
def shape (options : ReadingOptions) : Except Failure InstanceShape := do
  let arrayPaths ← options.arrayPaths
  let arrayNames ← options.arrayNames arrayPaths
  return {
    readsTexts := options.readsTexts
    readsAttributes := options.readsAttributes
    isArray := fun name path => arrayNames.contains name || arrayPaths.contains path
    listPaths := options.listPaths }

end ReadingOptions

/-- The value of a parsed instance document. The shape is settled before the document is looked
at. -/
def readInstance (options : ReadingOptions) (root : Except Failure Xml.Element) :
    Except Failure (Fields Json) := do
  let shape ← options.shape
  shape.treeValue (← root)

/-- The schema document of a parsed element tree. -/
def documentOfTree (root : Xml.Element) : Except Failure Document :=
  (plainTree root).map Document.ofTree

end SchemaBridge
