import SchemaBridge.Proofs.JsonSchema.Depth
import SchemaBridge.Proofs.JsonSchema.Nodes
import SchemaBridge.Proofs.JsonSchema.Reach

/-!
# References and definitions

A converted schema refers to types by `$ref` and defines types under one keyword at its top. Which
names are defined is a matter of the top-level types alone: every named complex type is, and a name of
simple types is as soon as one of them has a schema (`Conversion.mem_names_definitions_iff`). Which
names are referred to is a matter of every node: each `$ref` comes from a type name that the schema
uses and that is not primitive (`Conversion.refersOnly_nodeLaw`). Neither list is made from the
other, so a reference may dangle, and then its name is declared by no complex type and by no simple
type that has a schema (`Document.references_closed`).

Type mappings are copied into the result as they are. They may hold references of their own, and the
law is about those that hold none.
-/

set_option autoImplicit false

namespace SchemaBridge

open Xsd JsonSchema

/-- A JSON value holds a field, at any depth. -/
inductive Json.HasField (key : String) (value : Json) : Json → Prop where
  | here {fields : List (String × Json)} (h : (key, value) ∈ fields) : HasField key value (.obj fields)
  | field {fields : List (String × Json)} {entry : String × Json} (h : entry ∈ fields)
      (hinner : HasField key value entry.2) : HasField key value (.obj fields)
  | item {items : List Json} {item : Json} (h : item ∈ items) (hinner : HasField key value item) :
      HasField key value (.arr items)

/-- Type mappings without a reference at any depth. -/
def Options.MappingsReferFree (options : Options) : Prop :=
  ∀ entry ∈ options.typeMappings, ∀ value, ¬ Json.HasField "$ref" value (.obj entry.2)

namespace JsonSchema

/-- A reference with a given value stands in a schema: as the keyword `$ref` of one of its nodes, or
inside the data under a keyword. The name of a property or of a definition is not a keyword. -/
def RefersTo (schema : JsonSchema) (value : Json) : Prop :=
  ∃ node entry, schema.Contains node ∧ entry ∈ node.keywords ∧
    ((entry.1 = "$ref" ∧ keywordToJson entry.2 = value) ∨
      ∃ data, entry.2 = .data data ∧ Json.HasField "$ref" value data)

/-- The value of a reference leads to a definition of a schema document. -/
def Resolves (output : JsonSchema) (dialect : Dialect) (value : Json) : Prop :=
  ∃ name definition, value = .str (dialect.reference name) ∧
    (output.definitionsIn dialect).value? name = some definition

theorem resolves_reference_iff {output : JsonSchema} {dialect : Dialect} {name : String} :
    output.Resolves dialect (.str (dialect.reference name)) ↔
      name ∈ Fields.names (output.definitionsIn dialect) := by
  constructor
  · rintro ⟨other, definition, hvalue, hdefinition⟩
    rw [dialect.reference_inj (Json.str.inj hvalue)]
    exact Fields.mem_names_of_value? hdefinition
  · intro hmem
    cases hdefinition : (output.definitionsIn dialect).value? name with
    | some definition => exact ⟨name, definition, rfl, hdefinition⟩
    | none => exact absurd hmem ((Fields.value?_eq_none_iff ..).1 hdefinition)

end JsonSchema

namespace Conversion

variable {c : Conversion} {schema : Schema}

/-! ## Defined names -/

/-- A name is that of a top-level complex type, or of a top-level simple type that has a schema. -/
def Defines (c : Conversion) (schema : Schema) (name : String) : Prop :=
  name ≠ "" ∧ ((∃ type ∈ schema.complexTypes, type.name? = some name) ∨
    ∃ type ∈ schema.simpleTypes, type.name? = some name ∧ (c.simpleTypeSchema? type).isSome)

/-- **The names of the definitions** are those of complex types and of simple types with a schema. -/
theorem mem_names_definitions_iff {names : OpenNames} {name : String} :
    name ∈ Fields.names (c.definitions names schema) ↔ c.Defines schema name := by
  have hcomplex : name ∈ Fields.names (schema.complexTypes.filterMap fun type =>
      (nonempty? type.name?).map fun n => (n, c.complexTypeSchema names type)) ↔
      ∃ type ∈ schema.complexTypes, nonempty? type.name? = some name := by
    simp only [Fields.names, List.mem_map, List.mem_filterMap, Option.map_eq_some_iff]
    constructor
    · rintro ⟨entry, ⟨type, htype, n, hname, rfl⟩, rfl⟩
      exact ⟨type, htype, hname⟩
    · rintro ⟨type, htype, hname⟩
      exact ⟨_, ⟨type, htype, name, hname, rfl⟩, rfl⟩
  have hsimple : name ∈ Fields.names (schema.simpleTypes.filterMap fun type => do
      let n ← nonempty? type.name?
      let definition ← c.simpleTypeSchema? type
      return (n, definition)) ↔
      ∃ type ∈ schema.simpleTypes, nonempty? type.name? = some name ∧
        (c.simpleTypeSchema? type).isSome := by
    simp only [Fields.names, List.mem_map, List.mem_filterMap, Option.bind_eq_bind,
      Option.bind_eq_some_iff, Option.pure_def, Option.some.injEq, Option.isSome_iff_exists]
    constructor
    · rintro ⟨entry, ⟨type, htype, n, hname, definition, hdefinition, rfl⟩, rfl⟩
      exact ⟨type, htype, hname, definition, hdefinition⟩
    · rintro ⟨type, htype, hname, definition, hdefinition⟩
      exact ⟨(name, definition), ⟨type, htype, name, hname, definition, hdefinition, rfl⟩, rfl⟩
  refine Fields.mem_names_update.trans ?_
  rw [Fields.names_append, List.mem_append, hcomplex, hsimple]
  simp only [nonempty?_eq_some_iff, Defines]
  constructor
  · rintro (h | ⟨type, htype, ⟨hname, hne⟩, hsome⟩ | ⟨type, htype, hname, hne⟩)
    · cases h
    · exact ⟨hne, Or.inr ⟨type, htype, hname, hsome⟩⟩
    · exact ⟨hne, Or.inl ⟨type, htype, hname⟩⟩
  · rintro ⟨hne, ⟨type, htype, hname⟩ | ⟨type, htype, hname, hsome⟩⟩
    · exact Or.inr (Or.inr ⟨type, htype, hname, hne⟩)
    · exact Or.inr (Or.inl ⟨type, htype, ⟨hname, hne⟩, hsome⟩)

/-! ## References of single nodes -/

/-- A keyword that is a reference names a type that the schema uses and that is not primitive, and no
data holds another reference. -/
structure RefersOnly (c : Conversion) (schema : Schema) (entry : String × Keyword) : Prop where
  target : entry.1 = "$ref" → ∃ typeName, entry.2 = .text (c.options.dialect.reference typeName) ∧
    schema.Mentions typeName ∧ c.typeMap.isPrimitive typeName = false
  data_free : ∀ data, entry.2 = .data data → ∀ value, ¬ Json.HasField "$ref" value data

/-- A keyword of another name than `$ref`. -/
theorem refersOnly_of_ne {entry : String × Keyword} (hne : entry.1 ≠ "$ref")
    (hdata : ∀ data, entry.2 = .data data → ∀ value, ¬ Json.HasField "$ref" value data) :
    c.RefersOnly schema entry :=
  ⟨fun heq => absurd heq hne, hdata⟩

theorem refersOnly_text {keyword text : String} (hne : keyword ≠ "$ref") :
    c.RefersOnly schema (keyword, .text text) :=
  refersOnly_of_ne hne fun _ heq _ hfield => by
    cases heq
    cases hfield

theorem refersOnly_tables {keyword : String} {value : Keyword} (hne : keyword ≠ "$ref")
    (hvalue : ∀ data, value ≠ .data data) : c.RefersOnly schema (keyword, value) :=
  refersOnly_of_ne hne fun data heq => absurd heq (hvalue data)

/-- The table of primitive types holds no reference. -/
def MapReferFree (c : Conversion) : Prop :=
  ∀ typeName keyword data, (keyword, data) ∈ c.typeMap.keywords typeName →
    keyword ≠ "$ref" ∧ ∀ value, ¬ Json.HasField "$ref" value data

theorem TypeEntry.refersOnly (hmap : c.MapReferFree) {typeName : String}
    (hmentions : schema.Mentions typeName) {entry : String × Keyword}
    (h : c.TypeEntry typeName entry) : c.RefersOnly schema entry := by
  cases h with
  | origin => exact refersOnly_text (by decide)
  | untyped =>
      refine refersOnly_of_ne (by simp) fun data heq value hfield => ?_
      cases heq
      cases hfield
  | primitive hmem =>
      obtain ⟨hne, hfree⟩ := hmap _ _ _ hmem
      refine refersOnly_of_ne hne fun data heq => ?_
      cases heq
      exact hfree
  | reference hprimitive =>
      refine ⟨fun _ => ⟨typeName, rfl, hmentions, hprimitive⟩, fun data heq value hfield => ?_⟩
      cases heq
      cases hfield

theorem RestrictionEntry.refersOnly (hmap : c.MapReferFree) {base : String} {r : Restriction}
    {entry : String × Keyword} (h : c.RestrictionEntry base r entry) :
    c.RefersOnly schema entry := by
  have hfacets : ∀ keyword ∈ lengthKeywords ++ boundKeywords, keyword ≠ "$ref" := by decide
  cases h with
  | type =>
      refine refersOnly_of_ne (by simp) fun data heq value hfield => ?_
      cases heq
      -- The type of the base is one of its keywords, or null.
      cases htype : (c.typeMap.keywords base).value? "type" with
      | none =>
          rw [htype] at hfield
          cases hfield
      | some type =>
          rw [htype] at hfield
          exact (hmap _ _ _ (Fields.mem_of_value? htype)).2 value hfield
  | inherited _ hmem =>
      obtain ⟨hne, hfree⟩ := hmap _ _ _ hmem
      refine refersOnly_of_ne hne fun data heq => ?_
      cases heq
      exact hfree
  | origin => exact refersOnly_text (by decide)
  | enumeration => exact refersOnly_tables (by decide) (by simp)
  | facet number hkeyword =>
      refine refersOnly_of_ne (hfacets _ hkeyword) fun data heq value hfield => ?_
      cases heq
      cases number <;> cases hfield
  | pattern => exact refersOnly_text (by decide)
  | patterns => exact refersOnly_tables (by decide) (by simp)

/-- Every keyword of a node is one that refers to used types only. -/
def NodeRefersOnly (c : Conversion) (schema : Schema) (node : JsonSchema) : Prop :=
  ∀ entry ∈ node.keywords, c.RefersOnly schema entry

/-- What every single step of a conversion writes refers to used types only. -/
theorem refersOnly_nodeLaw (hmap : c.MapReferFree) :
    NodeLaw c schema (c.NodeRefersOnly schema) where
  unconstrained := List.forall_mem_nil _
  array minItems? items := by
    intro entry hentry
    rcases List.mem_append.1 hentry with hentry | hentry
    · rcases List.mem_cons.1 hentry with rfl | hentry
      · exact refersOnly_text (by decide)
      · obtain ⟨n, -, rfl⟩ := List.mem_map.1 hentry
        exact refersOnly_of_ne (by simp) fun data heq value hfield => by
          cases heq
          cases hfield
    · rw [List.mem_singleton.1 hentry]
      exact refersOnly_tables (by decide) (by simp)
  object earlier declared _ := by
    intro entry hentry
    simp only [JsonSchema.object, JsonSchema.keywords, List.mem_cons, List.not_mem_nil,
      or_false] at hentry
    rcases hentry with rfl | rfl | rfl
    · exact refersOnly_text (by decide)
    · exact refersOnly_tables (by decide) (by simp)
    · exact refersOnly_tables (by decide) (by simp)
  allOf schemas := by
    intro entry hentry
    rw [List.mem_singleton.1 hentry]
    exact refersOnly_tables (by decide) (by simp)
  anyOf schemas := by
    intro entry hentry
    rw [List.mem_singleton.1 hentry]
    exact refersOnly_tables (by decide) (by simp)
  merged keywords names type hkeywords hcomplex := by
    intro entry hentry
    rcases Fields.mem_of_mem_update hentry with hold | hnew
    · exact hkeywords entry hold
    · exact hcomplex entry hnew
  typeName name hname := fun _ hentry =>
    (typeEntry_of_mem_typeSchema hentry).refersOnly hmap hname
  elementType name hname := fun _ hentry =>
    (typeEntry_of_mem_namedSchema hentry).refersOnly hmap hname
  unionMember name hname := fun _ hentry =>
    (typeEntry_of_mem_unionMemberSchema hentry).refersOnly hmap hname
  restriction r s h := by
    obtain ⟨base, hkeywords⟩ := exists_ofRestriction h
    exact fun entry hentry => (hkeywords entry hentry).refersOnly hmap
  pattern p := by
    intro entry hentry
    rw [List.mem_singleton.1 hentry]
    exact refersOnly_text (by decide)

theorem refersOnly_schemaDocument (names : OpenNames) (schema : Schema) :
    c.NodeRefersOnly schema (c.schemaDocument names schema) := by
  intro entry hentry
  simp only [schemaDocument, JsonSchema.keywords, List.mem_cons, List.not_mem_nil,
    or_false] at hentry
  have hkey : c.options.dialect.definitionsKey ≠ "$ref" := by
    cases c.options.dialect <;> decide
  rcases hentry with rfl | rfl | rfl | rfl | rfl
  · exact refersOnly_text (by decide)
  · exact refersOnly_text (by decide)
  · exact refersOnly_tables (by decide) (by simp)
  · exact refersOnly_tables (by decide) (by simp)
  · exact refersOnly_tables hkey (by simp)

/-- The keywords of built-in types, which have a text or a number as their value. -/
theorem plain_of_mem_mapping {b : Builtin} {entry : String × Json} (h : entry ∈ b.mapping) :
    entry.1 ∈ ["type", "format", "minimum", "maximum", "exclusiveMinimum", "exclusiveMaximum"] ∧
      ((∃ text, entry.2 = .str text) ∨ ∃ n, entry.2 = .int n) := by
  have hall : ∀ entry ∈ b.mapping, entry.1 ∈ ["type", "format", "minimum", "maximum",
      "exclusiveMinimum", "exclusiveMaximum"] ∧
      ((∃ text, entry.2 = .str text) ∨ ∃ n, entry.2 = .int n) := by
    cases b <;> simp [Builtin.mapping, Builtin.ofType, Builtin.ofFormat, Builtin.boundedAtZero]
  exact hall entry h

/-- A keyword of a primitive type is that of a built-in type or that of a mapping. -/
theorem mem_keywords_extended {extra : Fields (Fields Json)} {typeName : String}
    {entry : String × Json} (h : entry ∈ (TypeMap.extended extra).keywords typeName) :
    (∃ b : Builtin, entry ∈ b.mapping) ∨ ∃ mapping ∈ extra, entry ∈ mapping.2 := by
  unfold TypeMap.keywords at h
  cases hvalue : (TypeMap.extended extra).value? typeName with
  | none =>
      rw [hvalue] at h
      cases h
  | some keywords =>
      rw [hvalue] at h
      rcases Fields.mem_of_mem_update (Fields.mem_of_value? hvalue) with hbuiltin | hmapping
      · obtain ⟨b, -, heq⟩ := List.mem_map.1 hbuiltin
        cases heq
        exact Or.inl ⟨b, h⟩
      · exact Or.inr ⟨_, hmapping, h⟩

/-- A built-in type has no reference, and mappings without one bring none in. -/
theorem mapReferFree_ofDocument {options : Options} (h : options.MappingsReferFree)
    (document : Document) : (ofDocument options document).MapReferFree := by
  intro typeName keyword data hmem
  rcases mem_keywords_extended hmem with ⟨b, hbuiltin⟩ | ⟨mapping, hmapping, hmem⟩
  · obtain ⟨hkeyword, hplain⟩ := plain_of_mem_mapping hbuiltin
    have hne : keyword ≠ "$ref" := by
      rintro rfl
      exact absurd hkeyword (by simp)
    refine ⟨hne, fun value hfield => ?_⟩
    rcases hplain with ⟨text, rfl⟩ | ⟨n, rfl⟩ <;> cases hfield
  · refine ⟨?_, fun value hfield => h _ hmapping value (.field hmem hfield)⟩
    rintro rfl
    exact h _ hmapping data (.here hmem)

/-! ## References of whole schemas -/

/-- What is true of a reference that stands in a converted schema. -/
structure ClosedReference (c : Conversion) (schema : Schema) (output : JsonSchema) (value : Json)
    (typeName : String) : Prop where
  target : value = .str (c.options.dialect.reference typeName)
  mentioned : schema.Mentions typeName
  not_primitive : c.typeMap.isPrimitive typeName = false
  ne_empty : schema.MembersNamed → typeName ≠ ""
  resolves_iff : output.Resolves c.options.dialect value ↔ c.Defines schema typeName
  /-- The name of a reference that leads nowhere is undeclared, or declared by simple types without a
  schema only. -/
  dangling : typeName ≠ "" → ¬ output.Resolves c.options.dialect value →
    (∀ type ∈ schema.complexTypes, type.name? ≠ some typeName) ∧
      ∀ type ∈ schema.simpleTypes, type.name? = some typeName → c.simpleTypeSchema? type = none

theorem exists_closedReference (hmap : c.MapReferFree)
    (hc : c.registry = Registry.ofSchema schema) {names : OpenNames} {value : Json}
    (h : (c.schemaDocument names schema).RefersTo value) :
    ∃ typeName, c.ClosedReference schema (c.schemaDocument names schema) value typeName := by
  obtain ⟨node, entry, hnode, hentry, hrefers⟩ := h
  have heverywhere := (refersOnly_nodeLaw hmap).schemaDocument hc
    (refersOnly_schemaDocument names schema)
  have honly := heverywhere node hnode entry hentry
  rcases hrefers with ⟨hkey, hvalue⟩ | ⟨data, hdata, hfield⟩
  · obtain ⟨typeName, htext, hmentions, hprimitive⟩ := honly.target hkey
    have htarget : value = .str (c.options.dialect.reference typeName) := by
      rw [← hvalue, htext]
      rfl
    have hresolves : (c.schemaDocument names schema).Resolves c.options.dialect value ↔
        c.Defines schema typeName := by
      rw [htarget, resolves_reference_iff, definitionsIn_schemaDocument, mem_names_definitions_iff]
    refine ⟨typeName, htarget, hmentions, hprimitive, hmentions.ne_empty, hresolves,
      fun hne hdangling => ?_⟩
    rw [hresolves] at hdangling
    constructor
    · intro type htype hname
      exact hdangling ⟨hne, Or.inl ⟨type, htype, hname⟩⟩
    · intro type htype hname
      cases hschema : c.simpleTypeSchema? type with
      | none => rfl
      | some s =>
          exact absurd ⟨hne, Or.inr ⟨type, htype, hname, by rw [hschema]; rfl⟩⟩ hdangling
  · exact absurd hfield (honly.data_free data hdata value)

end Conversion

namespace Xsd.Document

variable {options : Options} {document : Document} {output : JsonSchema}

/-- **References of a converted schema** lead to definitions exactly when their types are defined, and
the defined types are the complex ones and the simple ones that have a schema. Each reference comes
from a name that the schema uses and that is not primitive; the name is not empty in any document
that was read from a tree. -/
theorem references_closed (hmappings : options.MappingsReferFree)
    (houtput : convertWith options document = .ok output) :
    ∃ schema, document.schema? = some schema ∧
      (∀ name, name ∈ Fields.names (output.definitionsIn options.dialect) ↔
        (Conversion.ofDocument options document).Defines schema name) ∧
      (∀ value, output.RefersTo value → ∃ typeName,
        (Conversion.ofDocument options document).ClosedReference schema output value typeName) ∧
      ((∃ tree, document = Document.ofTree tree) → schema.MembersNamed) := by
  obtain ⟨schema, hschema, -, rfl⟩ := convertWith_eq_ok_iff.1 houtput
  refine ⟨schema, hschema, fun name => ?_, fun value hrefers => ?_, ?_⟩
  · have hdefinitions := Conversion.definitionsIn_schemaDocument
      (c := Conversion.ofDocument options document) {} schema
    rw [show options.dialect = (Conversion.ofDocument options document).options.dialect from rfl,
      hdefinitions, Conversion.mem_names_definitions_iff]
  · exact Conversion.exists_closedReference
      (Conversion.mapReferFree_ofDocument hmappings document)
      (registry_ofDocument options hschema) hrefers
  · rintro ⟨tree, rfl⟩
    exact membersNamed_ofTree hschema

/-- A price is an amount, and an amount is a number or something that is not declared. -/
def priceDocument : Document :=
  { schema? := some
      { elements := [{ name? := some "price", typeName? := some "Price" }]
        complexTypes := [{ name? := some "Price", simpleContent? := some { base? := some "Amount" } }]
        simpleTypes :=
          [{ name? := some "Amount", union? := some { memberTypes := ["xs:decimal", "Unknown"] } }] } }

/-- The schema of the document: one of its three references leads nowhere. -/
def priceOutput : JsonSchema :=
  .node [("$schema", .text Dialect.draft202012.schemaUri), ("type", .text "object"),
    ("properties", .named [("price", .reference "#/$defs/Price")]), ("required", .names ["price"]),
    ("$defs", .named
      [("Amount", .anyOf [.node [("type", .text "number")], .reference "#/$defs/Unknown"]),
        ("Price", .object [("#text", .reference "#/$defs/Amount")] ["#text"])])]

theorem convertWith_priceDocument : convertWith {} priceDocument = .ok priceOutput := by
  have hwithin : (Conversion.ofDocument {} priceDocument).emitWithin 20 {} priceDocument =
      some (.ok priceOutput) := rfl
  exact convertWith_eq_of_emitWithin hwithin (by decide)

/-- The dangling reference of the document names a type that is not defined. -/
theorem references_closed_priceDocument :
    ({} : Options).MappingsReferFree ∧ convertWith {} priceDocument = .ok priceOutput ∧
      priceOutput.RefersTo (.str "#/$defs/Unknown") ∧
      ¬ priceOutput.Resolves .draft202012 (.str "#/$defs/Unknown") ∧
      ∃ schema, priceDocument.schema? = some schema ∧
        (∀ name, name ∈ Fields.names (priceOutput.definitionsIn .draft202012) ↔
          (Conversion.ofDocument {} priceDocument).Defines schema name) ∧
        (∀ value, priceOutput.RefersTo value → ∃ typeName,
          (Conversion.ofDocument {} priceDocument).ClosedReference schema priceOutput value
            typeName) ∧
        ((∃ tree, priceDocument = Document.ofTree tree) → schema.MembersNamed) := by
  have hfree : ({} : Options).MappingsReferFree := fun _ h => nomatch h
  have hamount : JsonSchema.anyOf [.node [("type", .text "number")],
      .reference "#/$defs/Unknown"] ∈ priceOutput.children := by
    simp [children, priceOutput, keywords, Keyword.children, Keyword.text]
  have hmember : (JsonSchema.anyOf [.node [("type", .text "number")],
      .reference "#/$defs/Unknown"]).Contains (.reference "#/$defs/Unknown") :=
    .child (by simp [children, anyOf, keywords, Keyword.children]) (.self _)
  have hdangling : ¬ priceOutput.Resolves .draft202012 (.str (Dialect.draft202012.reference
      "Unknown")) := by
    rw [resolves_reference_iff]
    decide
  exact ⟨hfree, convertWith_priceDocument,
    ⟨_, ("$ref", .text "#/$defs/Unknown"), .child hamount hmember, List.mem_singleton_self _,
      Or.inl ⟨rfl, rfl⟩⟩,
    hdangling, references_closed hfree convertWith_priceDocument⟩

end Xsd.Document

end SchemaBridge
