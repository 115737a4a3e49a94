import SchemaBridge.Proofs.JsonSchema.Definitions
import SchemaBridge.Proofs.JsonSchema.TextSchemas
import SchemaBridge.Proofs.Paths.Circles
import SchemaBridge.Proofs.Paths.Consistency

/-!
# Lists in a converted schema and derived list paths

The text of an element is a list where a single occurrence of the element is written as an array: not
the array of its occurrences, but what stands below it, in place or in the definition that it refers
to (`JsonSchema.FollowsTo`). In regular schemas without circles of types each such element has a
derived list path (`Document.ownListsHavePaths`).

The walk that derives list paths asks for the simple type of an element. It does not look for text
inside a complex type, so simple content that extends a list is written as an array under `#text` and
has no path; nor does it go into the items of a list. A simple type that is declared again without a
schema is still written as it was declared first, where the walk sees the last declaration only.
`codesDocument` has an element of each kind.
-/

set_option autoImplicit false

namespace SchemaBridge

open Xsd JsonSchema

namespace JsonSchema

/-- References lead from a schema to another one, in any number of steps. -/
inductive FollowsTo (dialect : Dialect) (definitions : Fields JsonSchema) :
    JsonSchema → JsonSchema → Prop where
  | here (schema : JsonSchema) : FollowsTo dialect definitions schema schema
  | reference {schema definition target : JsonSchema} {name : String}
      (h : schema.reference? = some (dialect.reference name))
      (hdefinition : definitions.value? name = some definition)
      (hrest : FollowsTo dialect definitions definition target) :
      FollowsTo dialect definitions schema target

/-- A schema for the text of an element, from that of one occurrence: the schema itself or the
property for text, each up to references. -/
inductive TextOf (dialect : Dialect) (definitions : Fields JsonSchema) (single : JsonSchema) :
    JsonSchema → Prop where
  | own {text : JsonSchema} (h : FollowsTo dialect definitions single text) :
      TextOf dialect definitions single text
  | content {object inner text : JsonSchema} (h : FollowsTo dialect definitions single object)
      (htext : object.properties.value? "#text" = some inner)
      (hinner : FollowsTo dialect definitions inner text) : TextOf dialect definitions single text

/-- The schema of one occurrence of an element whose property may be an array of occurrences. -/
def occurrence? (property : JsonSchema) (isArray : Bool) : Option JsonSchema :=
  if isArray then property.items? else some property

/-- A reference leads to its definition. -/
theorem FollowsTo.definition {dialect : Dialect} {definitions : Fields JsonSchema}
    {target : String} {definition : JsonSchema} (name : String)
    (htarget : target = dialect.reference name)
    (h : definitions.value? name = some definition) :
    FollowsTo dialect definitions (.reference target) definition :=
  .reference (htarget ▸ rfl) h (.here _)

theorem FollowsTo.eq_of_no_reference {dialect : Dialect} {definitions : Fields JsonSchema}
    {schema target : JsonSchema} (hnone : schema.reference? = none)
    (h : FollowsTo dialect definitions schema target) : target = schema := by
  cases h with
  | here => rfl
  | reference h => cases hnone.symm.trans h

end JsonSchema

namespace Conversion

variable {c : Conversion} {schema : Schema} {names : OpenNames} {element : Element}
  {single text : JsonSchema}

/-! ## Lists of a single occurrence -/

theorem reference?_contentSchema (names : OpenNames) (type : ComplexType) :
    (c.contentSchema names type).reference? = none := by
  unfold contentSchema
  cases contentShape type <;> rfl

theorem reference?_simpleTypeSchema? {type : SimpleType} {s : JsonSchema}
    (h : c.simpleTypeSchema? type = some s) : s.reference? = none := by
  cases hlist : type.list? with
  | some list =>
      rw [c.simpleTypeSchema?_of_list hlist, listSchema?_eq] at h
      obtain ⟨items, -, rfl⟩ := Option.map_eq_some_iff.1 h
      exact reference?_array
  | none =>
      rw [c.simpleTypeSchema?_of_no_list hlist] at h
      split at h
      · obtain ⟨base, hkeywords⟩ := exists_ofRestriction h
        rw [reference?, value?_eq_none fun entry hentry => (hkeywords entry hentry).ne_reference]
      · unfold unionSchema? at h
        split at h <;> cases h
        rfl
      · cases h

/-- Of several simple types with a given name the last one has a schema, or none has. -/
def LastResolves (c : Conversion) (schema : Schema) (name : String) : Prop :=
  ∀ type, c.registry.complexTypes.value? name = none →
    c.registry.simpleTypes.value? name = some type →
    (c.simpleTypeSchema? type).isSome ∨ ∀ other ∈ schema.simpleTypes,
      nonempty? other.name? = some name → c.simpleTypeSchema? other = none

/-- Under the name of a type only the definition of a list is an array, and it is that of the
registered type unless a later declaration without a schema has taken its name. -/
theorem list?_isSome_of_definition (hc : c.registry = Registry.ofSchema schema)
    (hmap : c.typeMap = TypeMap.builtin) {name : String} (hlast : c.LastResolves schema name)
    {definition : JsonSchema}
    (hdefinition : (c.definitions {} schema).value? name = some definition)
    (h : FollowsTo c.options.dialect (c.definitions {} schema) definition text)
    (harray : text.IsArray) :
    ∃ type, c.registry.simpleTypes.value? name = some type ∧ type.list?.isSome := by
  rw [value?_definitions hc] at hdefinition
  cases hcomplex : c.registry.complexTypes.value? name with
  | some type =>
      simp only [hcomplex, Option.some.injEq] at hdefinition
      rw [complexTypeSchema_definition hc hcomplex] at hdefinition
      rw [← hdefinition] at h
      rw [h.eq_of_no_reference (reference?_contentSchema _ _)] at harray
      exact absurd harray (not_isArray_contentSchema _ _)
  | none =>
      simp only [hcomplex] at hdefinition
      -- What is written may be an earlier declaration than the registered one.
      obtain ⟨written, hwritten, hschema⟩ := Option.bind_eq_some_iff.1 hdefinition
      rw [h.eq_of_no_reference (reference?_simpleTypeSchema? hschema),
        isArray_simpleTypeSchema?_iff hmap hschema] at harray
      obtain ⟨hmem, hname⟩ := mem_of_value?_indexByName hwritten
      have hdeclared := (List.mem_filter.1 hmem).1
      -- The last declaration of the name has a schema, so it is the one that is written.
      cases hsimple : c.registry.simpleTypes.value? name with
      | none =>
          rw [hc] at hsimple
          exact absurd hname (value?_indexByName_eq_none_iff.1 hsimple written hdeclared)
      | some type =>
          rcases hlast type hcomplex hsimple with hsome | hnone
          · rw [value?_writtenSimpleTypes_of_isSome hc hsimple hsome] at hwritten
            cases hwritten
            exact ⟨_, rfl, harray⟩
          · cases hschema.symm.trans (hnone written hdeclared hname)

/-- **A single occurrence that is an array belongs to an element whose type is a list.** -/
theorem isList_of_followsTo (hc : c.registry = Registry.ofSchema schema)
    (hmap : c.typeMap = TypeMap.builtin) (hlast : ∀ name, c.LastResolves schema name)
    (hsingle : c.OccurrenceOf names element single)
    (h : FollowsTo c.options.dialect (c.definitions {} schema) single text)
    (harray : text.IsArray) (inner : OpenNames) : element.IsList c.registry inner := by
  -- An inline list is an array in place, a named one in its definition.
  cases h with
  | here =>
      obtain ⟨type, hsimple, hlist, -⟩ := exists_list_of_isArray hmap hsingle harray
      exact Or.inl ⟨type, hsimple, hlist⟩
  | reference href hdefinition hrest =>
      -- Only a type name is written as a reference, and that refers to its own definition.
      cases hsingle with
      | complexType => cases (reference?_contentSchema _ _).symm.trans href
      | simpleType _ _ hschema => cases (reference?_simpleTypeSchema? hschema).symm.trans href
      | @typeName typeName _ _ hname =>
          have heq := (standsFor_namedSchema typeName).eq_of_reference? hmap href
          rw [heq] at hdefinition
          obtain ⟨type, htype, hlist⟩ :=
            list?_isSome_of_definition hc hmap (hlast typeName) hdefinition hrest harray
          obtain ⟨list, hlist⟩ := Option.isSome_iff_exists.1 hlist
          refine Or.inr ⟨type, ?_, ?_⟩
          · rw [Registry.simpleType?, hname]
            exact htype
          · rw [resolveListType?, hlist, Option.isSome_some]
      | untyped => cases href

/-- Below the array of its occurrences, if there is one, an element is written as a single
occurrence. -/
theorem exists_occurrenceOf (hregular : schema.Regular)
    (helement : schema.Contains (.element element)) {inSequence repeats isArray : Bool}
    {property : JsonSchema}
    (hproperty : c.elementSchema? names element inSequence (c.options.forcesArray repeats) =
      some property)
    (hisArray : isArray = true ↔ c.options.Classifies element inSequence repeats) :
    ∃ single, property.occurrence? isArray = some single ∧ c.OccurrenceOf names element single := by
  obtain ⟨name, hname⟩ := exists_name_of_presented hproperty
  rw [Options.classifies_iff, Bool.coe_iff_coe] at hisArray
  simp only [elementSchema?, presented, hname, ← hisArray] at hproperty
  cases isArray with
  | false => exact ⟨property, rfl, occurrenceOf_of_singleSchema? hregular helement hname hproperty⟩
  | true =>
      cases hproperty
      refine ⟨_, items?_array, ?_⟩
      -- Items without a schema may be anything, like those of an element without a type.
      cases hschema : c.singleSchema? names element with
      | none => exact .untyped
      | some found => exact occurrenceOf_of_singleSchema? hregular helement hname hschema

end Conversion

namespace Xsd.Document

variable {options : Options} {document : Document} {schema : Schema}

/-! ## Paths of lists -/

/-- The conversion writes a property for the element at the end of a chain with given names; the flag
says whether the options make an array of the occurrences of the element. -/
def PropertyAt (document : Document) (options : Options) (names : List String) (isArray : Bool)
    (property : JsonSchema) : Prop :=
  ∃ schema entries element inSequence repeats, document.schema? = some schema ∧
    WrittenChain (Conversion.ofDocument options document) schema names entries element inSequence
      repeats ∧
    ({} : OpenNames).Admits entries ∧
    (Conversion.ofDocument options document).elementSchema? (({} : OpenNames).reopened entries)
      element inSequence (options.forcesArray repeats) = some property ∧
    (isArray = true ↔ options.Classifies element inSequence repeats)

/-- A walk along the names of elements comes to the property of an element, and a schema to which
`route` leads from that of one occurrence is an array. -/
def ArrayTextAt (document : Document) (options : Options) (output : JsonSchema)
    (names : List String) (route : JsonSchema → JsonSchema → Prop) : Prop :=
  ∃ opened property isArray single text, Reaches options.dialect output names opened property ∧
    (∀ name ∈ names, IsElementKey name) ∧ document.PropertyAt options names isArray property ∧
    property.occurrence? isArray = some single ∧ route single text ∧ text.IsArray

/-- Every element with a text that is written as an array has a list path. -/
def ListTextsHavePaths (document : Document) (options : Options) : Prop :=
  ∀ output names, convertWith options document = .ok output →
    document.ArrayTextAt options output names
      (TextOf options.dialect (output.definitionsIn options.dialect)) →
    joinedPath names ∈ deriveListPaths document

/-- Every element of which a single occurrence is written as an array has a list path. -/
def OwnListsHavePaths (document : Document) (options : Options) : Prop :=
  ∀ output names, convertWith options document = .ok output →
    document.ArrayTextAt options output names
      (FollowsTo options.dialect (output.definitionsIn options.dialect)) →
    joinedPath names ∈ deriveListPaths document

/-- Every walk along the names of elements comes to the property of an element, in which one
occurrence has a schema. -/
def WalksReachOccurrences (document : Document) (options : Options) : Prop :=
  ∀ output names opened property, convertWith options document = .ok output →
    Reaches options.dialect output names opened property → (∀ name ∈ names, IsElementKey name) →
    ∃ isArray single, document.PropertyAt options names isArray property ∧
      property.occurrence? isArray = some single

theorem walksReachOccurrences (hregular : ∀ schema, document.schema? = some schema → schema.Regular) :
    document.WalksReachOccurrences options := by
  intro output names opened property houtput hreach hkeys
  obtain ⟨schema, hschema, -, rfl⟩ := convertWith_eq_ok_iff.1 houtput
  have hc := registry_ofDocument options hschema
  obtain ⟨entries, element, inSequence, repeats, hchain, hadmits, -, hproperty⟩ :=
    Conversion.exists_chain_of_reaches hc (hregular schema hschema) hreach hkeys
  have hclassifies := (options.classifies_iff element inSequence repeats).symm
  obtain ⟨single, hsingle, -⟩ := Conversion.exists_occurrenceOf (hregular schema hschema)
    (Conversion.contains_of_writtenChain hc hchain) hproperty hclassifies
  exact ⟨_, single, ⟨schema, entries, element, inSequence, repeats, hschema, hchain, hadmits,
    hproperty, hclassifies⟩, hsingle⟩

/-- **Elements written as lists have list paths**: in a regular schema without circles of types each
walk along the names of elements comes to the property of an element, and where a single occurrence
of the element is an array, up to references, the path of the walk is a derived list path. -/
theorem ownListsHavePaths (hmappings : options.typeMappings = [])
    (hschemas : ∀ schema, document.schema? = some schema →
      schema.Regular ∧ schema.TypesAcyclic ∧ schema.ListsAreSimple)
    (hlast : document.LastSimpleTypesResolve options) :
    document.WalksReachOccurrences options ∧ document.OwnListsHavePaths options := by
  refine ⟨walksReachOccurrences fun schema hschema => (hschemas schema hschema).1, ?_⟩
  rintro output names houtput ⟨opened, property, isArray, single, text, -, -,
    ⟨schema, entries, element, inSequence, repeats, hschema, hchain, hadmits, hproperty,
      hisArray⟩, hsingle, hfollows, harray⟩
  obtain ⟨hregular, hacyclic, hlists⟩ := hschemas schema hschema
  have hc := registry_ofDocument options hschema
  -- The chain is one of declarations, and enters nothing twice.
  have hdeclared := declaredChain_of_writtenChain hschema hregular hlists hchain
  have hfresh := (OpenNames.fresh_empty_iff _).2 (hdeclared.nodup_of_admits hacyclic hadmits)
  refine mem_deriveListPaths_iff.2 ⟨schema, hschema, Schema.mem_listPaths_iff.2
    ⟨names, entries, element, inSequence, repeats, hdeclared, hfresh, rfl, ?_⟩⟩
  obtain ⟨occurrence, hsome, hoccurrence⟩ := Conversion.exists_occurrenceOf hregular
    (Conversion.contains_of_writtenChain hc hchain) hproperty hisArray
  cases hsome.symm.trans hsingle
  obtain ⟨found, hfound, -, hdefinitions⟩ := definitionsIn_of_convertWith houtput
  cases hschema.symm.trans hfound
  rw [hdefinitions] at hfollows
  rw [← hc]
  exact Conversion.isList_of_followsTo hc (typeMap_ofDocument hmappings)
    (hlast schema hschema (Chain.elements_ne_nil hchain)) hoccurrence hfollows harray _

/-! ## A document with a path for its list -/

/-- A list of a named type. -/
def listOf (name itemName : String) : SimpleType :=
  { name? := some name, list? := some { itemType? := some itemName } }

/-- An unbounded element whose type is a list. -/
def wordsElement : Element :=
  { name? := some "words", typeName? := some "Words", occurs := { max? := some "unbounded" } }

/-- The content of the top-level element: the list alone. -/
def wordsContent : Sequence := { elements := [wordsElement] }

/-- The type of the top-level element. -/
def wordsRootType : ComplexType := { sequence? := some wordsContent }

/-- An element of that type. -/
def wordsRoot : Element := { name? := some "r", complexType? := some wordsRootType }

/-- A schema with an unbounded element whose type is a list. -/
def wordsSchema : Schema :=
  { elements := [wordsRoot], simpleTypes := [listOf "Words" "xs:string"] }

/-- A document with that schema. -/
def wordsDocument : Document := { schema? := some wordsSchema }

/-- The schema of a list of strings. -/
def stringsSchema : JsonSchema := .array none (.node [("type", .text "string")])

/-- The schema of the document: the words are an array of references to a list. -/
def wordsOutput : JsonSchema :=
  .node [("$schema", .text Dialect.draft202012.schemaUri), ("type", .text "object"),
    ("properties", .named [("r",
      .object [("words", .array none (.reference "#/$defs/Words"))] ["words"])]),
    ("required", .names ["r"]), ("$defs", .named [("Words", stringsSchema)])]

theorem convertWith_wordsDocument :
    convertWith unboundedAsArrays wordsDocument = .ok wordsOutput := by
  have hwithin : (Conversion.ofDocument unboundedAsArrays wordsDocument).emitWithin 20 {}
      wordsDocument = some (.ok wordsOutput) := rfl
  exact convertWith_eq_of_emitWithin hwithin (by decide)

theorem eq_of_wordsSchema_contains {component : Component} (h : wordsSchema.Contains component) :
    component = .element wordsRoot ∨ component = .complexType wordsRootType ∨
      component = .sequence wordsContent ∨ component = .element wordsElement := by
  induction h with
  | element helement =>
      rw [List.mem_singleton.1 helement]
      simp
  | complexType htype => cases htype
  | group hgroup => cases hgroup
  | inline _ htype ih =>
      rcases ih with h | h | h | h <;> cases h <;> cases htype
      simp
  | own _ hsequence ih =>
      rcases ih with h | h | h | h <;> cases h
      cases hsequence
      simp
  | extension _ hextension _ ih =>
      rcases ih with h | h | h | h <;> cases h
      cases hextension
  | member _ helement ih =>
      rcases ih with h | h | h | h <;> cases h
      rw [List.mem_singleton.1 helement]
      simp

theorem wordsSchema_regular : wordsSchema.Regular where
  one_content type h := by
    rcases eq_of_wordsSchema_contains h with h | h | h | h <;> cases h
    decide
  inline_unnamed element type h htype := by
    rcases eq_of_wordsSchema_contains h with h | h | h | h <;> cases h <;> cases htype
    rfl
  one_type element h := by
    rcases eq_of_wordsSchema_contains h with h | h | h | h <;> cases h <;> decide
  members_distinct type sequence h hsequence := by
    rcases eq_of_wordsSchema_contains h with h | h | h | h <;> cases h
    cases hsequence
    rw [Sequence.members_of_groups_eq_nil rfl]
    decide
  roots_distinct := by decide
  not_builtin type h := by cases h

/-- The schema has no named complex types that a chain could enter. -/
theorem wordsSchema_typesAcyclic : wordsSchema.TypesAcyclic := by
  intro path entries element inSequence repeats h
  have hentries : entries = [] ∧ (element = wordsRoot ∨ element = wordsElement) := by
    induction h with
    | root helement => exact ⟨rfl, Or.inl (List.mem_singleton.1 helement)⟩
    | next _ hdecl _ ih =>
        obtain ⟨rfl, rfl | rfl⟩ := ih
        · obtain ⟨hmem, rfl, -⟩ := hdecl.of_plain rfl rfl rfl rfl
          exact ⟨rfl, Or.inr (List.mem_singleton.1 hmem)⟩
        · exact absurd hdecl (Element.not_declares rfl fun name _ => rfl)
  rw [hentries.1]
  exact List.nodup_nil

theorem wordsSchema_listsAreSimple : wordsSchema.ListsAreSimple where
  inline element type h hsimple := by
    rcases eq_of_wordsSchema_contains h with h | h | h | h <;> cases h
    all_goals cases hsimple
  named _ _ _ _ := rfl

theorem wordsDocument_lastSimpleTypesResolve :
    wordsDocument.LastSimpleTypesResolve unboundedAsArrays := by
  intro schema hschema _ name type _ hsimple
  cases hschema
  obtain ⟨hmem, -⟩ := mem_of_value?_indexByName hsimple
  rw [List.mem_singleton.1 hmem]
  exact Or.inl (Conversion.isSome_simpleTypeSchema?_of_itemName? rfl)

/-- A walk through the schema comes to the array of the words. -/
theorem reaches_wordsOutput :
    Reaches Dialect.draft202012 wordsOutput ["r", "words"] []
      (.array none (.reference "#/$defs/Words")) :=
  .next (.root rfl) (.here _) rfl

/-- That property is the one of the words, of which the options make an array. -/
theorem propertyAt_wordsDocument :
    wordsDocument.PropertyAt unboundedAsArrays ["r", "words"] true
      (.array none (.reference "#/$defs/Words")) := by
  have hroot : WrittenChain (Conversion.ofDocument unboundedAsArrays wordsDocument) wordsSchema
      ["r"] [] wordsRoot false false := .root (List.mem_singleton_self _) rfl
  have hwords : wordsContent.Declares
      (Conversion.ofDocument unboundedAsArrays wordsDocument).registry [] false wordsElement :=
    .own (List.mem_singleton_self _)
  refine ⟨wordsSchema, _, wordsElement, true, false, rfl, hroot.next (.own rfl rfl hwords) rfl,
    trivial, ?_, fun _ => Or.inr ⟨rfl, rfl, Or.inl rfl⟩, fun _ => rfl⟩
  rw [Conversion.elementSchema?, Conversion.singleSchema?_of_typeName rfl rfl rfl rfl]
  rfl

/-- The words of the document are found below the array of their occurrences, and have a path. -/
theorem mem_deriveListPaths_wordsDocument :
    unboundedAsArrays.typeMappings = [] ∧
      (∀ schema, wordsDocument.schema? = some schema →
        schema.Regular ∧ schema.TypesAcyclic ∧ schema.ListsAreSimple) ∧
      wordsDocument.LastSimpleTypesResolve unboundedAsArrays ∧
      wordsDocument.ArrayTextAt unboundedAsArrays wordsOutput ["r", "words"]
        (FollowsTo Dialect.draft202012 (wordsOutput.definitionsIn Dialect.draft202012)) ∧
      joinedPath ["r", "words"] ∈ deriveListPaths wordsDocument := by
  have hschemas : ∀ schema, wordsDocument.schema? = some schema →
      schema.Regular ∧ schema.TypesAcyclic ∧ schema.ListsAreSimple := by
    intro schema h
    cases h
    exact ⟨wordsSchema_regular, wordsSchema_typesAcyclic, wordsSchema_listsAreSimple⟩
  have htext : wordsDocument.ArrayTextAt unboundedAsArrays wordsOutput ["r", "words"]
      (FollowsTo Dialect.draft202012 (wordsOutput.definitionsIn Dialect.draft202012)) :=
    ⟨[], _, true, _, stringsSchema, reaches_wordsOutput, by decide, propertyAt_wordsDocument, rfl,
      .definition "Words" (by decide) rfl, rfl⟩
  have hlists := (ownListsHavePaths rfl hschemas wordsDocument_lastSimpleTypesResolve).2
  exact ⟨rfl, hschemas, wordsDocument_lastSimpleTypesResolve, htext,
    hlists wordsOutput ["r", "words"] convertWith_wordsDocument htext⟩

/-! ## A document with lists that have no path -/

/-- Simple content that extends a list. -/
def codeType : ComplexType := { simpleContent? := some { base? := some "Words" } }

/-- An element with such content. -/
def codeElement : Element := { name? := some "code", complexType? := some codeType }

/-- An element whose type is a list with items of a complex type. -/
def rowsElement : Element :=
  { name? := some "rows", simpleType? := some { list? := some { itemType? := some "Row" } } }

/-- An element whose type is declared twice. -/
def tagsElement : Element := { name? := some "tags", typeName? := some "Tags" }

/-- The content of the top-level element. -/
def codesContent : Sequence := { elements := [codeElement, rowsElement, tagsElement] }

/-- The type of the top-level element. -/
def codesRootType : ComplexType := { sequence? := some codesContent }

/-- An element of that type. -/
def codesRoot : Element := { name? := some "r", complexType? := some codesRootType }

/-- An element whose type is a list. -/
def cellsElement : Element := { name? := some "cells", typeName? := some "Words" }

/-- The content of a row. -/
def rowContent : Sequence := { elements := [cellsElement] }

/-- The type of the items of the rows. -/
def rowType : ComplexType := { name? := some "Row", sequence? := some rowContent }

/-- A schema with three such elements; the later declaration of `Tags` restricts an unknown type. -/
def codesSchema : Schema :=
  { elements := [codesRoot], complexTypes := [rowType],
    simpleTypes :=
      [listOf "Words" "xs:string", listOf "Tags" "xs:string", restricted "Tags" "Unknown"] }

/-- A document with that schema. -/
def codesDocument : Document := { schema? := some codesSchema }

/-- The schema of the code: its text refers to a list. -/
def codeSchema : JsonSchema := .object [("#text", .reference "#/$defs/Words")] ["#text"]

/-- The schema of the top-level element. -/
def codesRootSchema : JsonSchema :=
  .object [("code", codeSchema), ("rows", .array none (.reference "#/$defs/Row")),
    ("tags", .reference "#/$defs/Tags")] ["code", "rows", "tags"]

/-- The schema of the document. -/
def codesOutput : JsonSchema :=
  .node [("$schema", .text Dialect.draft202012.schemaUri), ("type", .text "object"),
    ("properties", .named [("r", codesRootSchema)]), ("required", .names ["r"]),
    ("$defs", .named [("Words", stringsSchema), ("Tags", stringsSchema),
      ("Row", .object [("cells", .reference "#/$defs/Words")] ["cells"])])]

theorem convertWith_codesDocument : convertWith {} codesDocument = .ok codesOutput := by
  have hwithin : (Conversion.ofDocument {} codesDocument).emitWithin 60 {} codesDocument =
      some (.ok codesOutput) := rfl
  exact convertWith_eq_of_emitWithin hwithin (by decide)

/-- The only path that is derived is that of the list with items of a complex type. -/
theorem deriveListPaths_codesDocument : deriveListPaths codesDocument = ["r.rows"] := by
  have hcollect : Collector.collectWithin 40
      { kind := .lists, registry := Registry.ofSchema codesSchema } codesSchema =
      some { kind := .lists, registry := Registry.ofSchema codesSchema, paths := ["r.rows"] } := rfl
  have hschema : codesDocument.schema? = some codesSchema := rfl
  exact find_eq_of_collectWithin hschema (by decide) hcollect

/-- The declarations of the schema. -/
def IsCodesPart : Component → Prop
  | .element element =>
      element ∈ [codesRoot, codeElement, rowsElement, tagsElement, cellsElement]
  | .complexType type => type ∈ [codesRootType, codeType, rowType]
  | .sequence sequence => sequence ∈ [codesContent, rowContent]

theorem isCodesPart_of_contains {component : Component} (h : codesSchema.Contains component) :
    IsCodesPart component := by
  induction h with
  | element helement =>
      rw [List.mem_singleton.1 helement]
      simp [IsCodesPart]
  | complexType htype =>
      rw [List.mem_singleton.1 htype]
      simp [IsCodesPart]
  | group hgroup => cases hgroup
  | inline _ htype ih =>
      simp only [IsCodesPart, List.mem_cons, List.not_mem_nil, or_false] at ih
      rcases ih with rfl | rfl | rfl | rfl | rfl <;> cases htype <;> simp [IsCodesPart]
  | own _ hsequence ih =>
      simp only [IsCodesPart, List.mem_cons, List.not_mem_nil, or_false] at ih
      rcases ih with rfl | rfl | rfl <;> cases hsequence <;> simp [IsCodesPart]
  | extension _ hextension _ ih =>
      simp only [IsCodesPart, List.mem_cons, List.not_mem_nil, or_false] at ih
      rcases ih with rfl | rfl | rfl <;> cases hextension
  | member _ helement ih =>
      simp only [IsCodesPart, List.mem_cons, List.not_mem_nil, or_false] at ih
      rcases ih with rfl | rfl <;>
        simp only [codesContent, rowContent, List.mem_cons, List.not_mem_nil, or_false] at helement
      · rcases helement with rfl | rfl | rfl <;> simp [IsCodesPart]
      · rw [helement]
        simp [IsCodesPart]

theorem codesSchema_regular : codesSchema.Regular where
  one_content type h := by
    have htypes : ∀ type ∈ [codesRootType, codeType, rowType],
        [type.sequence?.isSome, (extendedBase? type.complexContent?).isSome,
          (extendedBase? type.simpleContent?).isSome].count true ≤ 1 := by decide
    exact htypes type (isCodesPart_of_contains h)
  inline_unnamed element type h htype := by
    have helement := isCodesPart_of_contains h
    simp only [IsCodesPart, List.mem_cons, List.not_mem_nil, or_false] at helement
    rcases helement with rfl | rfl | rfl | rfl | rfl <;> cases htype <;> rfl
  one_type element h := by
    have helements : ∀ element ∈ [codesRoot, codeElement, rowsElement, tagsElement, cellsElement],
        [(nonempty? element.typeName?).isSome, element.simpleType?.isSome,
          element.complexType?.isSome].count true ≤ 1 := by decide
    exact helements element (isCodesPart_of_contains h)
  members_distinct type sequence h hsequence := by
    have hsequences : ∀ sequence ∈ [codesContent, rowContent], sequence.groups = [] ∧
        (sequence.elements.filterMap fun element => nonempty? element.name?).Nodup := by decide
    obtain ⟨hgroups, hnames⟩ :=
      hsequences sequence (isCodesPart_of_contains (.of_contentShape h hsequence))
    rw [Sequence.members_of_groups_eq_nil hgroups, Schema.elementNames, List.filterMap_map]
    exact hnames
  roots_distinct := by decide
  not_builtin type h name hname := by
    rw [List.mem_singleton.1 h] at hname
    cases hname
    decide

/-- The only named complex type is that of the items, which no chain enters. -/
theorem codesSchema_typesAcyclic : codesSchema.TypesAcyclic := by
  intro path entries element inSequence repeats h
  have hentries : entries = [] ∧
      (element = codesRoot ∨ element = codeElement ∨ element = rowsElement ∨
        element = tagsElement) := by
    induction h with
    | root helement => exact ⟨rfl, Or.inl (List.mem_singleton.1 helement)⟩
    | next _ hdecl _ ih =>
        obtain ⟨rfl, rfl | rfl | rfl | rfl⟩ := ih
        · obtain ⟨hmem, rfl, -⟩ := hdecl.of_plain rfl rfl rfl rfl
          refine ⟨rfl, Or.inr ?_⟩
          simpa only [codesContent, List.mem_cons, List.not_mem_nil, or_false] using hmem
        · -- Simple content has no elements.
          cases hdecl with
          | inline htype hdecl =>
              cases htype
              exact absurd hdecl (ComplexType.not_declares rfl rfl)
          | named hinline => cases hinline
        · exact absurd hdecl (Element.not_declares rfl fun name hname => nomatch hname)
        · refine absurd hdecl (Element.not_declares rfl fun name hname => ?_)
          cases hname
          rfl
  rw [hentries.1]
  exact List.nodup_nil

/-- Without elements that become arrays every property is that of a single occurrence. -/
theorem PropertyAt.eq_false {document : Document} {names : List String} {isArray : Bool}
    {property : JsonSchema} (h : document.PropertyAt {} names isArray property) :
    isArray = false := by
  obtain ⟨schema, entries, element, inSequence, repeats, -, -, -, -, hisArray⟩ := h
  cases isArray with
  | false => rfl
  | true =>
      rcases hisArray.1 rfl with ⟨-, hall⟩ | ⟨-, -, hall | ⟨name, hname, -⟩⟩
      · cases hall
      · cases hall
      · cases hname

/-- What a walk through the schema comes to has an array text when a route leads from the property
to an array. -/
theorem arrayTextAt_codesDocument {names opened : List String} {property text : JsonSchema}
    {route : JsonSchema → JsonSchema → Prop}
    (hreach : Reaches Dialect.draft202012 codesOutput names opened property)
    (hkeys : ∀ name ∈ names, IsElementKey name) (hroute : route property text)
    (harray : text.IsArray) : codesDocument.ArrayTextAt {} codesOutput names route := by
  have hregular : ∀ schema, codesDocument.schema? = some schema → schema.Regular := by
    intro schema h
    cases h
    exact codesSchema_regular
  obtain ⟨isArray, single, hproperty, hsingle⟩ :=
    walksReachOccurrences hregular codesOutput names opened property convertWith_codesDocument
      hreach hkeys
  obtain rfl := hproperty.eq_false
  cases hsingle
  exact ⟨opened, property, false, property, text, hreach, hkeys, hproperty, rfl, hroute, harray⟩

/-- **Lists without a path**: the text of simple content that extends a list, an element in the items
of a list, and an element whose type is declared again without a schema. -/
theorem codesDocument_not_listTextsHavePaths :
    codesSchema.Regular ∧ codesSchema.TypesAcyclic ∧ ({} : Options).typeMappings = [] ∧
      codesDocument.schema? = some codesSchema ∧
      (∀ names ∈ [["r", "code"], ["r", "rows", "cells"], ["r", "tags"]],
        codesDocument.ArrayTextAt {} codesOutput names
          (TextOf Dialect.draft202012 (codesOutput.definitionsIn Dialect.draft202012)) ∧
        joinedPath names ∉ deriveListPaths codesDocument) ∧
      ¬ codesDocument.ListTextsHavePaths {} := by
  have hroot : Reaches Dialect.draft202012 codesOutput ["r"] [] codesRootSchema := .root rfl
  have hrows : Reaches Dialect.draft202012 codesOutput ["r", "rows"] []
      (.array none (.reference "#/$defs/Row")) := hroot.next (.here _) rfl
  have hrow : (reference "#/$defs/Row").reference? = some (Dialect.draft202012.reference "Row") := by
    decide
  have hwords : FollowsTo Dialect.draft202012 (codesOutput.definitionsIn Dialect.draft202012)
      (.reference "#/$defs/Words") stringsSchema := .definition "Words" (by decide) rfl
  have htags : FollowsTo Dialect.draft202012 (codesOutput.definitionsIn Dialect.draft202012)
      (.reference "#/$defs/Tags") stringsSchema := .definition "Tags" (by decide) rfl
  have hcases : ∀ names ∈ [["r", "code"], ["r", "rows", "cells"], ["r", "tags"]],
      codesDocument.ArrayTextAt {} codesOutput names
        (TextOf Dialect.draft202012 (codesOutput.definitionsIn Dialect.draft202012)) ∧
      joinedPath names ∉ deriveListPaths codesDocument := by
    rw [deriveListPaths_codesDocument]
    simp only [List.forall_mem_cons]
    refine ⟨⟨?_, by decide⟩, ⟨?_, by decide⟩, ⟨?_, by decide⟩, fun _ h => nomatch h⟩
    · -- The array is under the text of the code.
      exact arrayTextAt_codesDocument (hroot.next (.here _) rfl) (by decide)
        (.content (.here _) rfl hwords) rfl
    · -- The walk goes through the items of the rows to the cells.
      exact arrayTextAt_codesDocument
        (hrows.next (.items items?_array (.reference hrow rfl (.here _))) rfl) (by decide)
        (.own hwords) rfl
    · exact arrayTextAt_codesDocument (hroot.next (.here _) rfl) (by decide) (.own htags) rfl
  refine ⟨codesSchema_regular, codesSchema_typesAcyclic, rfl, rfl, hcases, fun h => ?_⟩
  obtain ⟨htext, hmissing⟩ := hcases ["r", "code"] (List.mem_cons_self ..)
  exact hmissing (h codesOutput _ convertWith_codesDocument htext)

end Xsd.Document

end SchemaBridge
