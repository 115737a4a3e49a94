import SchemaBridge.JsonSchema.Basic
import SchemaBridge.Options
import SchemaBridge.Pattern
import SchemaBridge.Scalar.Reading
import SchemaBridge.Xsd.Registry
import SchemaBridge.Xsd.TypeMap

/-!
# Schemas of simple types

A type name stands for the keywords of a primitive type or for a reference to a definition. A simple
type is a list, else a restriction, else a union; what cannot be resolved has no schema.

A restriction starts from the keywords of its base, which must be primitive, and adds the facets
that fit the resulting type: lengths and patterns for strings, bounds for numbers.
-/

set_option autoImplicit false

namespace SchemaBridge

open Xsd

/-- What a conversion works with: its options, the registered declarations, and the table of
primitive types. -/
structure Conversion where
  options : Options
  registry : Registry
  typeMap : TypeMap

namespace Conversion

/-- The conversion of a document under given options. -/
def ofDocument (options : Options) (document : Document) : Conversion where
  options := options
  registry := Registry.ofDocument document
  typeMap := TypeMap.extended options.typeMappings

/-- The keyword that names the type a schema comes from. -/
def originKey : String := "xsdOriginType"

/-- The keywords that a restriction takes over from its base, in this order. -/
def inheritedKeywords : List String :=
  ["type", "format", "minimum", "maximum", "exclusiveMinimum", "exclusiveMaximum", "minLength",
    "maxLength", "pattern", "enum", "anyOf", "allOf", originKey]

/-- The schema with its origin noted, where origins are shown. -/
def noteOrigin (c : Conversion) (typeName : String) (schema : JsonSchema) : JsonSchema :=
  if c.options.showOriginTypes then schema.put originKey (.text typeName) else schema

/-- A reference to the definition of a type. -/
def referenceTo (c : Conversion) (typeName : String) : JsonSchema :=
  .reference (c.options.dialect.reference typeName)

/-- The type and, if it has one, the format of a primitive type. -/
def primitiveSchema (c : Conversion) (typeName : String) : JsonSchema :=
  let keywords := c.typeMap.keywords typeName
  let format? := (keywords.value? "format").filter Json.isPresent
  .node (("type", .data ((keywords.value? "type").getD .null)) ::
    format?.toList.map fun format => ("format", .data format))

/-- The schema of a type name, without its origin. -/
def bareTypeSchema (c : Conversion) (typeName : String) : JsonSchema :=
  if c.typeMap.isPrimitive typeName then c.primitiveSchema typeName else c.referenceTo typeName

/-- The schema of a type that is referred to by name. -/
def typeSchema (c : Conversion) (typeName : String) : JsonSchema :=
  c.noteOrigin typeName (c.bareTypeSchema typeName)

/-- The schema of a member of a union: every keyword of a primitive type except its origin. -/
def unionMemberSchema (c : Conversion) (typeName : String) : JsonSchema :=
  if c.typeMap.isPrimitive typeName then
    .node (((c.typeMap.keywords typeName).without originKey).map fun entry =>
      (entry.1, .data entry.2))
  else c.referenceTo typeName

/-! ## Restrictions -/

/-- Set a keyword to a number, when the facet has one. -/
def putFacet (keyword : String) (facet? : Option String) (schema : JsonSchema) : JsonSchema :=
  match facet?.bind facetNumber? with
  | none => schema
  | some number => schema.put keyword (.data number.toJson)

/-- The lengths of a restriction; an exact length sets both bounds. -/
def putLengths (r : Restriction) (schema : JsonSchema) : JsonSchema :=
  putFacet "maxLength" r.length? (putFacet "minLength" r.length?
    (putFacet "maxLength" r.maxLength? (putFacet "minLength" r.minLength? schema)))

/-- The patterns of a restriction; several of them must all match. -/
def putPatterns (r : Restriction) (schema : JsonSchema) : JsonSchema :=
  match r.patterns with
  | [] => schema
  | [pattern] => schema.put "pattern" (.text (normalizePattern pattern))
  | patterns =>
      schema.put "allOf"
        (.schemas (patterns.map fun p => .node [("pattern", .text (normalizePattern p))]))

/-- The numeric bounds of a restriction. -/
def putBounds (r : Restriction) (schema : JsonSchema) : JsonSchema :=
  putFacet "exclusiveMaximum" r.maxExclusive? (putFacet "exclusiveMinimum" r.minExclusive?
    (putFacet "maximum" r.maxInclusive? (putFacet "minimum" r.minInclusive? schema)))

/-- The facets that fit a type: lengths and patterns for strings, bounds for numbers. -/
def putFacets (type : Json) (r : Restriction) (schema : JsonSchema) : JsonSchema :=
  match type with
  | .str "string" => putPatterns r (putLengths r schema)
  | .str "number" | .str "integer" => putBounds r schema
  | _ => schema

/-- The keywords that a restriction takes over from its base. -/
def baseSchema (keywords : Fields Json) : JsonSchema :=
  let type := (keywords.value? "type").getD .null
  inheritedKeywords.foldl
    (fun schema keyword =>
      match keywords.value? keyword with
      | none | some .null => schema
      | some value => schema.put keyword (.data value))
    (.node [("type", .data type)])

/-- The enumerated values of a restriction, if it has any. -/
def putEnumeration (r : Restriction) (schema : JsonSchema) : JsonSchema :=
  if r.enumeration.isEmpty then schema else schema.put "enum" (.names r.enumeration)

/-- The schema of a restriction; none unless its base is a primitive type. -/
def restrictionSchema? (c : Conversion) (r : Restriction) : Option JsonSchema :=
  match nonempty? r.base? with
  | none => none
  | some base =>
      if c.typeMap.isPrimitive base then
        let keywords := c.typeMap.keywords base
        some (putFacets ((keywords.value? "type").getD .null) r
          (putEnumeration r (c.noteOrigin base (baseSchema keywords))))
      else none

/-! ## Lists and unions -/

/-- The schema of a union; none when it has no members. -/
def unionSchema? (c : Conversion) (u : Union) : Option JsonSchema :=
  if u.memberTypes.isEmpty then none else some (.anyOf (u.memberTypes.map c.unionMemberSchema))

mutual

/-- The schema of a simple type: of its list, else of its restriction, else of its union. -/
def simpleTypeSchema? (c : Conversion) : SimpleType → Option JsonSchema
  | ⟨_, _, _, some list⟩ => listSchema? c list
  | ⟨_, some restriction, _, none⟩ => c.restrictionSchema? restriction
  | ⟨_, none, some union, none⟩ => c.unionSchema? union
  | ⟨_, none, none, none⟩ => none

/-- The schema of a list; the named item type goes before the inline one. -/
def listSchema? (c : Conversion) : ListType → Option JsonSchema
  | ⟨itemType?, simpleType?⟩ =>
      let items? : Option JsonSchema :=
        match nonempty? itemType?, simpleType? with
        | some typeName, _ => some (c.typeSchema typeName)
        | none, some type => simpleTypeSchema? c type
        | none, none => none
      items?.map fun items => .array none items

end

/-- The schema of an attribute: of its named type, or else of the restriction of its inline type. -/
def attributeSchema? (c : Conversion) (a : Attribute) : Option JsonSchema :=
  match nonempty? a.typeName? with
  | some typeName => some (c.typeSchema typeName)
  | none => (a.simpleType?.bind SimpleType.restriction?).bind c.restrictionSchema?

end Conversion

end SchemaBridge
