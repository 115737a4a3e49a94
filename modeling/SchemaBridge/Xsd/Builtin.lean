import SchemaBridge.Failure

/-!
# Built-in types

The built-in simple types of XML Schema and the JSON schema keywords that stand for each of them.
`Builtin.all` lists them in the order of the type table; `Builtin.ofLocalName?` finds one by its
name without a namespace prefix.
-/

set_option autoImplicit false

namespace SchemaBridge.Xsd

/-- A built-in simple type. -/
inductive Builtin where
  | string | normalizedString | token | language | name | ncName | nmToken | id | idRef | idRefs
  | entity | entities | qName | notationName | boolean | decimal | float | double | integer
  | nonPositiveInteger | negativeInteger | nonNegativeInteger | positiveInteger | long | int
  | short | byte | unsignedLong | unsignedInt | unsignedShort | unsignedByte | duration | dateTime
  | time | date | gYearMonth | gYear | gMonthDay | gDay | gMonth | hexBinary | base64Binary
  | anyURI
deriving DecidableEq, Repr

namespace Builtin

/-- Every built-in type, in the order of the type table. -/
def all : List Builtin :=
  [.string, .normalizedString, .token, .language, .name, .ncName, .nmToken, .id, .idRef, .idRefs,
    .entity, .entities, .qName, .notationName, .boolean, .decimal, .float, .double, .integer,
    .nonPositiveInteger, .negativeInteger, .nonNegativeInteger, .positiveInteger, .long, .int,
    .short, .byte, .unsignedLong, .unsignedInt, .unsignedShort, .unsignedByte, .duration, .dateTime,
    .time, .date, .gYearMonth, .gYear, .gMonthDay, .gDay, .gMonth, .hexBinary, .base64Binary,
    .anyURI]

/-- The name in the XML Schema namespace. -/
def localName : Builtin → String
  | .string => "string"
  | .normalizedString => "normalizedString"
  | .token => "token"
  | .language => "language"
  | .name => "Name"
  | .ncName => "NCName"
  | .nmToken => "NMTOKEN"
  | .id => "ID"
  | .idRef => "IDREF"
  | .idRefs => "IDREFS"
  | .entity => "ENTITY"
  | .entities => "ENTITIES"
  | .qName => "QName"
  | .notationName => "NOTATION"
  | .boolean => "boolean"
  | .decimal => "decimal"
  | .float => "float"
  | .double => "double"
  | .integer => "integer"
  | .nonPositiveInteger => "nonPositiveInteger"
  | .negativeInteger => "negativeInteger"
  | .nonNegativeInteger => "nonNegativeInteger"
  | .positiveInteger => "positiveInteger"
  | .long => "long"
  | .int => "int"
  | .short => "short"
  | .byte => "byte"
  | .unsignedLong => "unsignedLong"
  | .unsignedInt => "unsignedInt"
  | .unsignedShort => "unsignedShort"
  | .unsignedByte => "unsignedByte"
  | .duration => "duration"
  | .dateTime => "dateTime"
  | .time => "time"
  | .date => "date"
  | .gYearMonth => "gYearMonth"
  | .gYear => "gYear"
  | .gMonthDay => "gMonthDay"
  | .gDay => "gDay"
  | .gMonth => "gMonth"
  | .hexBinary => "hexBinary"
  | .base64Binary => "base64Binary"
  | .anyURI => "anyURI"

/-- The name in capitals, words joined by underscores. -/
def constantName : Builtin → String
  | .string => "STRING"
  | .normalizedString => "NORMALIZED_STRING"
  | .token => "TOKEN"
  | .language => "LANGUAGE"
  | .name => "NAME"
  | .ncName => "NCNAME"
  | .nmToken => "NMTOKEN"
  | .id => "ID"
  | .idRef => "IDREF"
  | .idRefs => "IDREFS"
  | .entity => "ENTITY"
  | .entities => "ENTITIES"
  | .qName => "QNAME"
  | .notationName => "NOTATION"
  | .boolean => "BOOLEAN"
  | .decimal => "DECIMAL"
  | .float => "FLOAT"
  | .double => "DOUBLE"
  | .integer => "INTEGER"
  | .nonPositiveInteger => "NON_POSITIVE_INTEGER"
  | .negativeInteger => "NEGATIVE_INTEGER"
  | .nonNegativeInteger => "NON_NEGATIVE_INTEGER"
  | .positiveInteger => "POSITIVE_INTEGER"
  | .long => "LONG"
  | .int => "INT"
  | .short => "SHORT"
  | .byte => "BYTE"
  | .unsignedLong => "UNSIGNED_LONG"
  | .unsignedInt => "UNSIGNED_INT"
  | .unsignedShort => "UNSIGNED_SHORT"
  | .unsignedByte => "UNSIGNED_BYTE"
  | .duration => "DURATION"
  | .dateTime => "DATETIME"
  | .time => "TIME"
  | .date => "DATE"
  | .gYearMonth => "G_YEAR_MONTH"
  | .gYear => "G_YEAR"
  | .gMonthDay => "G_MONTH_DAY"
  | .gDay => "G_DAY"
  | .gMonth => "G_MONTH"
  | .hexBinary => "HEX_BINARY"
  | .base64Binary => "BASE64_BINARY"
  | .anyURI => "ANY_URI"

/-- The name as type references write it. -/
def qualifiedName (b : Builtin) : String := "xs:" ++ b.localName

/-- The keyword `type` with a name. -/
def ofType (name : String) : Fields Json := [("type", .str name)]

/-- A string with a format. -/
def ofFormat (name : String) : Fields Json := [("type", .str "string"), ("format", .str name)]

/-- An integer with a bound at zero. -/
def boundedAtZero (keyword : String) : Fields Json := [("type", .str "integer"), (keyword, .int 0)]

/-- The JSON schema keywords of a built-in type. -/
def mapping : Builtin → Fields Json
  | .boolean => ofType "boolean"
  | .decimal | .float | .double => ofType "number"
  | .integer | .long | .int | .short | .byte | .unsignedLong | .unsignedInt | .unsignedShort
  | .unsignedByte => ofType "integer"
  | .nonPositiveInteger => boundedAtZero "maximum"
  | .negativeInteger => boundedAtZero "exclusiveMaximum"
  | .nonNegativeInteger => boundedAtZero "minimum"
  | .positiveInteger => boundedAtZero "exclusiveMinimum"
  | .duration => ofFormat "duration"
  | .dateTime => ofFormat "date-time"
  | .time => ofFormat "time"
  | .date | .gYearMonth | .gYear | .gMonthDay | .gDay | .gMonth => ofFormat "date"
  | .hexBinary | .base64Binary => ofFormat "byte"
  | .anyURI => ofFormat "uri"
  | _ => ofType "string"

/-- The built-in type with a local name. -/
def ofLocalName (name : String) : Except Failure Builtin :=
  match all.find? (·.localName = name) with
  | some b => .ok b
  | none => .error (.invalidBuiltin name)

/-- The table lists every built-in type. -/
theorem mem_all (b : Builtin) : b ∈ all := by
  cases b <;> decide

/-- No two built-in types share a name. -/
theorem localName_injective {b c : Builtin} (h : b.localName = c.localName) : b = c := by
  have hfind : ∀ d : Builtin, all.find? (·.localName = d.localName) = some d := by
    intro d
    cases d <;> rfl
  have hb := hfind b
  rw [h, hfind c] at hb
  exact (Option.some.inj hb).symm

end Builtin

end SchemaBridge.Xsd
