import SchemaBridge.Proofs.JsonSchema.Depth
import SchemaBridge.Proofs.JsonSchema.SideBySide

/-!
# Array policies

Options decide which repeated elements become arrays: those with listed names, or all unbounded ones,
those below repeating groups included. Without names and without the flag none does. The policy shows
in one way only: a property that is written as an array holds under `items` what the property is
without the policy (`JsonSchema.Wraps`). Names and order of properties, required names and defined
names are the same.

An element whose inline simple type has no schema has no property, unless it is an array, and then
the array is not around anything. So the main result is about schemas whose inline simple types
resolve (`Schema.InlineTypesResolve`): a conversion with a policy wraps what the conversion without it
writes (`Document.convertWith_wraps`).
-/

set_option autoImplicit false

namespace SchemaBridge

open Xsd

/-! ## Schemas with arrays around properties -/

namespace JsonSchema

mutual

/-- A schema is another one with arrays around some of the properties in it. -/
inductive Wraps : JsonSchema → JsonSchema → Prop where
  | node {keywords others : List (String × Keyword)} (h : List.Forall₂ EntryWraps keywords others) :
      Wraps (.node keywords) (.node others)

/-- Under a keyword stands the same, but for arrays around properties below. -/
inductive EntryWraps : String × Keyword → String × Keyword → Prop where
  | same (entry : String × Keyword) : EntryWraps entry entry
  | schema (name : String) {inner other : JsonSchema} (h : Wraps inner other) :
      EntryWraps (name, .schema inner) (name, .schema other)
  | schemas (name : String) {list others : List JsonSchema} (h : List.Forall₂ Wraps list others) :
      EntryWraps (name, .schemas list) (name, .schemas others)
  | properties {table others : List (String × JsonSchema)}
      (h : List.Forall₂ PropertyWraps table others) :
      EntryWraps ("properties", .named table) ("properties", .named others)
  | definitions (name : String) {table others : List (String × JsonSchema)}
      (h : List.Forall₂ DefinitionWraps table others) :
      EntryWraps (name, .named table) (name, .named others)

/-- A property is written as in the other schema, or as an array of that. -/
inductive PropertyWraps : String × JsonSchema → String × JsonSchema → Prop where
  | single (name : String) {schema other : JsonSchema} (h : Wraps schema other) :
      PropertyWraps (name, schema) (name, other)
  | array (name : String) (minItems? : Option Int) {items other : JsonSchema}
      (h : Wraps items other) : PropertyWraps (name, array minItems? items) (name, other)

/-- A definition is never written as an array of the other one. -/
inductive DefinitionWraps : String × JsonSchema → String × JsonSchema → Prop where
  | single (name : String) {schema other : JsonSchema} (h : Wraps schema other) :
      DefinitionWraps (name, schema) (name, other)

end

theorem Wraps.refl (schema : JsonSchema) : schema.Wraps schema := by
  cases schema
  exact .node (List.forall₂_same.2 fun entry _ => .same entry)

theorem EntryWraps.name_eq {entry other : String × Keyword} (h : EntryWraps entry other) :
    other.1 = id entry.1 := by
  cases h <;> rfl

theorem Wraps.update {keywords keywords' extra extra' : JsonSchema} (h : keywords.Wraps keywords')
    (hextra : extra.Wraps extra') : (keywords.update extra).Wraps (keywords'.update extra') := by
  cases h with
  | node h =>
      cases hextra with
      | node hextra =>
          exact .node (Fields.forall₂_update Function.injective_id EntryWraps.name_eq h hextra)

theorem wraps_array (minItems? : Option Int) {items items' : JsonSchema} (h : items.Wraps items') :
    (array minItems? items).Wraps (array minItems? items') := by
  refine .node (.cons (.same _) (List.rel_append ?_ (.cons (.schema _ h) .nil)))
  exact List.forall₂_same.2 fun entry _ => .same entry

theorem forall₂_propertyWraps {properties properties' : Fields JsonSchema}
    (h : Fields.Alike id (fun s t => ∀ name, PropertyWraps (name, s) (name, t)) properties
      properties') : List.Forall₂ PropertyWraps properties properties' :=
  h.imp fun entry other hentry => by
    obtain ⟨name, s⟩ := entry
    obtain ⟨name', t⟩ := other
    obtain ⟨rfl, hwraps⟩ := hentry
    exact hwraps _

theorem wraps_object {properties properties' : Fields JsonSchema} (required : List String)
    (h : Fields.Alike id (fun s t => ∀ name, PropertyWraps (name, s) (name, t)) properties
      properties') :
    (object properties required).Wraps (object properties' required) :=
  .node (.cons (.same _) (.cons (.properties (forall₂_propertyWraps h)) (.cons (.same _) .nil)))

theorem wraps_allOf {schemas others : List JsonSchema} (h : List.Forall₂ Wraps schemas others) :
    (allOf schemas).Wraps (allOf others) :=
  .node (.cons (.schemas _ h) .nil)

/-! ## Arrays stay single -/

section Arrays

variable {name : String} {minItems? : Option Int} {items items' schema other : JsonSchema}

theorem entryWraps_data {value : Json} {entry : String × Keyword}
    (h : EntryWraps (name, .data value) entry) : entry = (name, .data value) := by
  cases h
  rfl

theorem entryWraps_data_right {value : Json} {entry : String × Keyword}
    (h : EntryWraps entry (name, .data value)) : entry = (name, .data value) := by
  cases h
  rfl

theorem exists_of_entryWraps_schema {entry : String × Keyword}
    (h : EntryWraps (name, .schema items) entry) :
    ∃ items', entry = (name, .schema items') ∧ items.Wraps items' := by
  cases h with
  | same => exact ⟨items, rfl, .refl items⟩
  | schema _ h => exact ⟨_, rfl, h⟩

theorem exists_of_entryWraps_schema_right {entry : String × Keyword}
    (h : EntryWraps entry (name, .schema items')) :
    ∃ items, entry = (name, .schema items) ∧ items.Wraps items' := by
  cases h with
  | same => exact ⟨items', rfl, .refl items'⟩
  | schema _ h => exact ⟨_, rfl, h⟩

theorem array_none_eq (items : JsonSchema) :
    array none items = .node [("type", .text "array"), ("items", .schema items)] := rfl

theorem array_some_eq (n : Int) (items : JsonSchema) :
    array (some n) items =
      .node [("type", .text "array"), ("minItems", .data (.int n)), ("items", .schema items)] := rfl

/-- An array wraps nothing but an array with the same bound. -/
theorem Wraps.exists_of_array (h : (array minItems? items).Wraps other) :
    ∃ items', other = array minItems? items' ∧ items.Wraps items' := by
  cases minItems? with
  | none =>
      rw [array_none_eq] at h
      obtain ⟨⟨⟩ | ⟨htype, ⟨⟩ | ⟨hitems, ⟨⟩⟩⟩⟩ := h
      obtain ⟨items', rfl, hwraps⟩ := exists_of_entryWraps_schema hitems
      exact ⟨items', by rw [entryWraps_data htype]; rfl, hwraps⟩
  | some n =>
      rw [array_some_eq] at h
      obtain ⟨⟨⟩ | ⟨htype, ⟨⟩ | ⟨hbound, ⟨⟩ | ⟨hitems, ⟨⟩⟩⟩⟩⟩ := h
      obtain ⟨items', rfl, hwraps⟩ := exists_of_entryWraps_schema hitems
      exact ⟨items', by rw [entryWraps_data htype, entryWraps_data hbound]; rfl, hwraps⟩

/-- An array is wrapped by nothing but an array with the same bound. -/
theorem Wraps.exists_of_array_right (h : schema.Wraps (array minItems? items')) :
    ∃ items, schema = array minItems? items ∧ items.Wraps items' := by
  cases minItems? with
  | none =>
      rw [array_none_eq] at h
      obtain ⟨⟨⟩ | ⟨htype, ⟨⟩ | ⟨hitems, ⟨⟩⟩⟩⟩ := h
      obtain ⟨items, rfl, hwraps⟩ := exists_of_entryWraps_schema_right hitems
      exact ⟨items, by rw [entryWraps_data_right htype]; rfl, hwraps⟩
  | some n =>
      rw [array_some_eq] at h
      obtain ⟨⟨⟩ | ⟨htype, ⟨⟩ | ⟨hbound, ⟨⟩ | ⟨hitems, ⟨⟩⟩⟩⟩⟩ := h
      obtain ⟨items, rfl, hwraps⟩ := exists_of_entryWraps_schema_right hitems
      exact ⟨items, by rw [entryWraps_data_right htype, entryWraps_data_right hbound]; rfl, hwraps⟩

theorem sizeOf_items_lt (minItems? : Option Int) (items : JsonSchema) :
    sizeOf items < sizeOf (array minItems? items) := by
  cases minItems? with
  | none =>
      rw [array_none_eq]
      simp
      omega
  | some n =>
      rw [array_some_eq]
      simp
      omega

/-- An array and its items do not wrap the same schema. -/
theorem Wraps.not_array_of_items (h : items.Wraps other) (minItems? : Option Int) :
    ¬ (array minItems? items).Wraps other := by
  intro harray
  -- Each array that is taken off leaves a smaller schema of the same form.
  induction hsize : sizeOf other using Nat.strongRecOn generalizing items other with
  | _ size ih =>
      obtain ⟨other', rfl, hother⟩ := harray.exists_of_array
      obtain ⟨items', rfl, hitems⟩ := h.exists_of_array_right
      exact ih (sizeOf other') (hsize ▸ sizeOf_items_lt minItems? other') hitems hother rfl

end Arrays

end JsonSchema

/-! ## The law -/

/-- The same options with no element taken as an array. -/
def Options.withoutArrays (options : Options) : Options :=
  { options with arrayElementNames := [], treatUnboundedAsArray := false }

theorem Options.isArrayMember_withoutArrays (options : Options) (m : Member) :
    options.withoutArrays.isArrayMember m = false := by
  have hname : (m.element.name?.map options.withoutArrays.isArrayName).getD false = false := by
    cases m.element.name? <;> rfl
  have hflag : options.withoutArrays.treatUnboundedAsArray = false := rfl
  rw [isArrayMember, forcesArray, isArrayElement, hname, hflag, Bool.and_false, Bool.or_false,
    Bool.and_false, Bool.or_false]

/-- The inline simple types of all elements have a schema. -/
def Xsd.Schema.InlineTypesResolve (schema : Schema) (c : Conversion) : Prop :=
  ∀ element type, schema.Contains (.element element) → element.simpleType? = some type →
    (c.simpleTypeSchema? type).isSome

namespace Conversion

open JsonSchema

/-- The same conversion with no element taken as an array. -/
def withoutArrays (c : Conversion) : Conversion := { c with options := c.options.withoutArrays }

variable {c : Conversion} {schema : Schema}

/-- An element with a name has a schema when its inline simple type has one. -/
theorem isSome_singleSchema? (names : OpenNames) {element : Element} {name : String}
    (hname : nonempty? element.name? = some name)
    (hresolves : ∀ type, element.simpleType? = some type → (c.simpleTypeSchema? type).isSome) :
    (c.singleSchema? names element).isSome := by
  rw [singleSchema?_eq, hname, Option.isSome_map, typeKeywords?]
  cases htype : element.simpleType? with
  | some type =>
      obtain ⟨s, hs⟩ := Option.isSome_iff_exists.1 (hresolves type htype)
      simp [hs]
  | none => cases nonempty? element.typeName? <;> rfl

/-- A conversion with an array policy and the one without it. -/
theorem wraps_sideBySide (hresolves : schema.InlineTypesResolve c) :
    SideBySide c c.withoutArrays .identity schema Wraps
      (fun s t => ∀ name, PropertyWraps (name, s) (name, t)) where
  registry := (Registry.rename_identity _).symm
  unconstrained := .refl _
  array := wraps_array none
  object := wraps_object
  allOf hbase hadded := wraps_allOf (.cons hbase (.cons hadded .nil))
  update := .update
  property h name := .single name h
  member m hmember hsingle := by
    rw [Element.rename_identity, OpenNames.rename_identity, Member.rename_identity] at *
    have hplain : c.withoutArrays.options.isArrayMember m = false :=
      c.options.isArrayMember_withoutArrays m
    rw [hplain]
    unfold presented
    cases hname : nonempty? m.element.name? with
    | none => exact .none
    | some name =>
        have hresolved : ∀ type, m.element.simpleType? = some type →
            (c.simpleTypeSchema? type).isSome := fun type => hresolves m.element type hmember
        -- An array is around something, because a single occurrence has a schema.
        obtain ⟨s, hs⟩ := Option.isSome_iff_exists.1 (isSome_singleSchema? m.names hname hresolved)
        rw [hs] at hsingle ⊢
        generalize c.withoutArrays.singleSchema? m.names m.element = other? at hsingle ⊢
        cases hsingle with
        | some h =>
            dsimp only
            split
            · exact .some fun property => .array property _ h
            · exact .some fun property => .single property h
  typeName name := .refl (c.typeSchema name)
  elementType name := .refl (c.namedSchema name)
  restriction r := by
    rw [Restriction.rename_identity]
    exact optionRel_refl Wraps.refl (c.restrictionSchema? r)
  union u := by
    rw [Union.rename_identity]
    exact optionRel_refl Wraps.refl (c.unionSchema? u)

/-- With an array policy, a schema document wraps the one without it. -/
theorem wraps_schemaDocument (hresolves : schema.InlineTypesResolve c)
    (hc : c.registry = Registry.ofSchema schema) (names : OpenNames) :
    (c.schemaDocument names schema).Wraps (c.withoutArrays.schemaDocument names schema) := by
  have hroots := (wraps_sideBySide hresolves).declaredRoots hc names
  have hdefinitions := (wraps_sideBySide hresolves).definitions hc names
  rw [OpenNames.rename_identity, Schema.rename_identity] at hroots hdefinitions
  have hproperties := forall₂_propertyWraps (declaredProperties_alike .nil hroots)
  have hdefined : List.Forall₂ DefinitionWraps (c.definitions names schema)
      (c.withoutArrays.definitions names schema) :=
    hdefinitions.imp fun entry other hentry => by
      obtain ⟨name, s⟩ := entry
      obtain ⟨name', t⟩ := other
      obtain ⟨rfl, hwraps⟩ := hentry
      exact .single _ hwraps
  simp only [schemaDocument, declaredRequired_alike [] hroots]
  exact .node (.cons (.same _) (.cons (.same _) (.cons (.properties hproperties)
    (.cons (.same _) (.cons (.definitions _ hdefined) .nil)))))

end Conversion

/-! ## Documents -/

namespace Xsd.Document

/-- **An array policy changes only arrays around properties.** Where inline simple types resolve,
conversions with a policy and without one fail with the same error, or the first result is the second
one with arrays around some properties, and no property has two of them. -/
theorem convertWith_wraps (document : Document) (options : Options)
    (hresolves : ∀ schema, document.schema? = some schema →
      schema.InlineTypesResolve (Conversion.ofDocument options document)) :
    Conversion.SameOutcome JsonSchema.Wraps (convertWith options document)
        (convertWith options.withoutArrays document) ∧
      ∀ minItems? items other, JsonSchema.Wraps items other →
        ¬ (JsonSchema.array minItems? items).Wraps other := by
  refine ⟨?_, fun minItems? items other h => h.not_array_of_items minItems?⟩
  have houtcome := Conversion.sameOutcome_emitWith (c := Conversion.ofDocument options document)
    (d := (Conversion.ofDocument options document).withoutArrays) (r := .identity) {} document
    fun schema hschema => by
      rw [OpenNames.rename_identity, Schema.rename_identity]
      exact Conversion.wraps_schemaDocument (hresolves schema hschema)
        (registry_ofDocument options hschema) {}
  rw [OpenNames.rename_identity, rename_identity] at houtcome
  exact houtcome

/-- A code of at most four characters that may be repeated. -/
def stockCodeElement : Element :=
  { name? := some "code", occurs := { min? := some 1, max? := some "unbounded" },
    simpleType? := some
      { restriction? := some { base? := some "xs:string", maxLength? := some "4" } } }

/-- A stock has codes. -/
def stockType : ComplexType := { sequence? := some { elements := [stockCodeElement] } }

/-- A stock. -/
def stockElement : Element := { name? := some "stock", complexType? := some stockType }

/-- A document with a stock. -/
def stockSchema : Schema := { elements := [stockElement] }

/-- The document of the schema. -/
def stockDocument : Document := { schema? := some stockSchema }

/-- The schema of a code. -/
def stockCodeSchema : JsonSchema :=
  .node [("type", .text "string"), ("maxLength", .data (.int 4))]

/-- What the document becomes, when codes have a given schema. -/
def stockOutput (codes : JsonSchema) : JsonSchema :=
  .node [("$schema", .text Dialect.draft202012.schemaUri), ("type", .text "object"),
    ("properties", .named [("stock", .object [("code", codes)] ["code"])]),
    ("required", .names ["stock"]), ("$defs", .named [])]

theorem eq_of_stockSchema_contains {component : Component} (h : stockSchema.Contains component) :
    component = .element stockElement ∨ component = .complexType stockType ∨
      (∃ sequence, stockType.sequence? = some sequence ∧ component = .sequence sequence) ∨
      component = .element stockCodeElement := by
  induction h with
  | element helement => exact Or.inl (congrArg _ (List.mem_singleton.1 helement))
  | complexType htype => cases htype
  | group hgroup => cases hgroup
  | inline _ htype ih =>
      rcases ih with h | h | ⟨_, _, h⟩ | h <;> cases h <;> cases htype
      exact Or.inr (Or.inl rfl)
  | own _ hsequence ih =>
      rcases ih with h | h | ⟨_, _, h⟩ | h <;> cases h
      exact Or.inr (Or.inr (Or.inl ⟨_, hsequence, rfl⟩))
  | extension _ hextension hsequence ih =>
      rcases ih with h | h | ⟨_, _, h⟩ | h <;> cases h
      cases hextension
  | member _ helement ih =>
      rcases ih with h | h | ⟨_, hsequence, h⟩ | h <;> cases h
      cases hsequence
      exact Or.inr (Or.inr (Or.inr (congrArg _ (List.mem_singleton.1 helement))))

/-- Options that take every unbounded element as an array. -/
def arrayOptions : Options := { treatUnboundedAsArray := true }

/-- The array around the codes of a stock is all that the policy adds, and it is a single one. -/
theorem convertWith_wraps_stockDocument :
    stockSchema.InlineTypesResolve (Conversion.ofDocument arrayOptions stockDocument) ∧
      convertWith arrayOptions stockDocument = .ok (stockOutput (.array (some 1) stockCodeSchema)) ∧
      convertWith arrayOptions.withoutArrays stockDocument = .ok (stockOutput stockCodeSchema) ∧
      (stockOutput (.array (some 1) stockCodeSchema)).Wraps (stockOutput stockCodeSchema) ∧
      ¬ (JsonSchema.array (some 1) stockCodeSchema).Wraps stockCodeSchema := by
  have hresolves : stockSchema.InlineTypesResolve
      (Conversion.ofDocument arrayOptions stockDocument) := by
    intro element type helement htype
    rcases eq_of_stockSchema_contains helement with h | h | ⟨_, _, h⟩ | h <;> cases h <;> cases htype
    rfl
  have harrays : convertWith arrayOptions stockDocument =
      .ok (stockOutput (.array (some 1) stockCodeSchema)) := by
    have hwithin : (Conversion.ofDocument arrayOptions stockDocument).emitWithin 20 {} stockDocument =
        some (.ok (stockOutput (.array (some 1) stockCodeSchema))) := rfl
    exact convertWith_eq_of_emitWithin hwithin (by decide)
  have hplain : convertWith arrayOptions.withoutArrays stockDocument =
      .ok (stockOutput stockCodeSchema) := by
    have hwithin : (Conversion.ofDocument arrayOptions.withoutArrays stockDocument).emitWithin 20 {}
        stockDocument = some (.ok (stockOutput stockCodeSchema)) := rfl
    exact convertWith_eq_of_emitWithin hwithin (by decide)
  obtain ⟨houtcome, hsingle⟩ := convertWith_wraps stockDocument arrayOptions fun schema hschema => by
    cases hschema
    exact hresolves
  rw [harrays, hplain] at houtcome
  cases houtcome with
  | ok hwraps =>
      exact ⟨hresolves, harrays, hplain, hwraps,
        hsingle (some 1) stockCodeSchema stockCodeSchema (.refl _)⟩

end Xsd.Document

end SchemaBridge
