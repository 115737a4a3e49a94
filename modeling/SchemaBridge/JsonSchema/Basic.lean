import SchemaBridge.Json.Basic

/-!
# JSON schemas

A schema is a table of keywords. What stands under a keyword is plain data, a list of names, one
schema, several schemas, or schemas under names of their own. So the schema nodes of a document are
told apart from the tables of properties and definitions, and from data such as enumerated values.
-/

set_option autoImplicit false

namespace SchemaBridge

mutual

/-- A JSON schema: keywords in order. -/
inductive JsonSchema where
  | node (keywords : List (String × Keyword))

/-- What stands under a keyword. -/
inductive Keyword where
  /-- Plain data: a type name, a format, a reference, a bound, … -/
  | data (value : Json)
  /-- A list of strings: required names or enumerated values. -/
  | names (names : List String)
  /-- One schema. -/
  | schema (schema : JsonSchema)
  /-- Several schemas. -/
  | schemas (schemas : List JsonSchema)
  /-- Schemas by name: properties or definitions. -/
  | named (table : List (String × JsonSchema))

end

namespace Keyword

/-- A keyword whose value is a string. -/
def text (value : String) : Keyword := .data (.str value)

end Keyword

namespace JsonSchema

/-- The keywords of a schema. -/
def keywords : JsonSchema → Fields Keyword
  | .node keywords => keywords

/-- The schema without keywords, which every value satisfies. -/
def unconstrained : JsonSchema := .node []

/-- A schema with one keyword set. -/
def put (schema : JsonSchema) (keyword : String) (value : Keyword) : JsonSchema :=
  .node (schema.keywords.put keyword value)

/-- A schema with the keywords of another one set, in order. -/
def update (schema extra : JsonSchema) : JsonSchema :=
  .node (schema.keywords.update extra.keywords)

/-- A reference. -/
def reference (target : String) : JsonSchema := .node [("$ref", .text target)]

/-- An array of items, with a least number of them if one is given. -/
def array (minItems? : Option Int) (items : JsonSchema) : JsonSchema :=
  .node (("type", .text "array") ::
    (minItems?.toList.map fun n => ("minItems", .data (.int n))) ++ [("items", .schema items)])

/-- An object with properties, some of them required. -/
def object (properties : Fields JsonSchema) (required : List String) : JsonSchema :=
  .node [("type", .text "object"), ("properties", .named properties), ("required", .names required)]

/-- All of several schemas. -/
def allOf (schemas : List JsonSchema) : JsonSchema := .node [("allOf", .schemas schemas)]

/-- Any of several schemas. -/
def anyOf (schemas : List JsonSchema) : JsonSchema := .node [("anyOf", .schemas schemas)]

mutual

/-- A schema as a JSON value. -/
def toJson : JsonSchema → Json
  | .node keywords => .obj (keywordsToJson keywords)

/-- The keywords of a schema as fields. -/
def keywordsToJson : List (String × Keyword) → List (String × Json)
  | [] => []
  | (name, keyword) :: rest => (name, keywordToJson keyword) :: keywordsToJson rest

/-- The value under a keyword as a JSON value. -/
def keywordToJson : Keyword → Json
  | .data value => value
  | .names names => Json.ofNames names
  | .schema schema => schema.toJson
  | .schemas schemas => .arr (schemasToJson schemas)
  | .named table => .obj (tableToJson table)

/-- Several schemas as items. -/
def schemasToJson : List JsonSchema → List Json
  | [] => []
  | schema :: rest => schema.toJson :: schemasToJson rest

/-- Named schemas as fields. -/
def tableToJson : List (String × JsonSchema) → List (String × Json)
  | [] => []
  | (name, schema) :: rest => (name, schema.toJson) :: tableToJson rest

end

end JsonSchema

end SchemaBridge
