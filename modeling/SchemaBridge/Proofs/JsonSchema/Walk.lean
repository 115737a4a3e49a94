import SchemaBridge.JsonSchema.Basic
import SchemaBridge.Options
import SchemaBridge.Proofs.Fields

/-!
# Walking a converted schema

A reader of a schema document who looks for the properties below an element follows the items of
arrays, the branches of `allOf`, and references into the definitions. `Within` is such a walk inside
one property; it records the definitions that it opens. `Reaches` goes on from property to property
and starts at the top of the document.

What a walk inside a schema finds is decided by four keywords alone: `properties`, `items`, `allOf`
and `$ref` (`offers_iff`, `offers_congr`).
-/

set_option autoImplicit false

namespace SchemaBridge

theorem Dialect.reference_inj (dialect : Dialect) {name other : String}
    (h : dialect.reference name = dialect.reference other) : name = other := by
  have hlist := congrArg String.toList h
  simp only [Dialect.reference, String.toList_append, List.append_cancel_left_eq] at hlist
  exact String.toList_inj.1 hlist

namespace JsonSchema

/-! ## Keywords that lead on -/

/-- What stands under a keyword. -/
def value? (schema : JsonSchema) (keyword : String) : Option Keyword :=
  Fields.value? schema.keywords keyword

/-- The properties of a schema. -/
def properties (schema : JsonSchema) : Fields JsonSchema :=
  match schema.value? "properties" with
  | some (.named table) => table
  | _ => []

/-- The schema of the items. -/
def items? (schema : JsonSchema) : Option JsonSchema :=
  match schema.value? "items" with
  | some (.schema items) => some items
  | _ => none

/-- The schemas that must all hold. -/
def branches (schema : JsonSchema) : List JsonSchema :=
  match schema.value? "allOf" with
  | some (.schemas schemas) => schemas
  | _ => []

/-- The target of a reference. -/
def reference? (schema : JsonSchema) : Option String :=
  match schema.value? "$ref" with
  | some (.data (.str target)) => some target
  | _ => none

/-- The schema is that of an array. -/
def IsArray (schema : JsonSchema) : Prop :=
  schema.value? "type" = some (.text "array")

/-- The schema is that of an object. -/
def IsObject (schema : JsonSchema) : Prop :=
  schema.value? "type" = some (.text "object")

/-- The names that a schema requires. -/
def required (schema : JsonSchema) : List String :=
  match schema.value? "required" with
  | some (.names names) => names
  | _ => []

/-- The definitions of a schema document. -/
def definitionsIn (dialect : Dialect) (schema : JsonSchema) : Fields JsonSchema :=
  match schema.value? dialect.definitionsKey with
  | some (.named table) => table
  | _ => []

/-! An array leads to its items only. -/

section array

variable {minItems? : Option Int} {items : JsonSchema}

@[simp] theorem items?_array : (array minItems? items).items? = some items := by
  cases minItems? <;> rfl

@[simp] theorem branches_array : (array minItems? items).branches = [] := by
  cases minItems? <;> rfl

@[simp] theorem reference?_array : (array minItems? items).reference? = none := by
  cases minItems? <;> rfl

theorem not_isObject_array : ¬ (array minItems? items).IsObject := by
  simp [IsObject, array, value?, keywords, Fields.value?, Keyword.text]

end array

/-! ## Walks -/

/-- A walk inside one schema, with the definitions that it opens, in order. -/
inductive Within (dialect : Dialect) (definitions : Fields JsonSchema) :
    JsonSchema → List String → JsonSchema → Prop where
  | here (schema : JsonSchema) : Within dialect definitions schema [] schema
  | items {schema items target : JsonSchema} {opened : List String}
      (h : schema.items? = some items) (hwalk : Within dialect definitions items opened target) :
      Within dialect definitions schema opened target
  | branch {schema branch target : JsonSchema} {opened : List String}
      (h : branch ∈ schema.branches) (hwalk : Within dialect definitions branch opened target) :
      Within dialect definitions schema opened target
  | reference {schema definition target : JsonSchema} {name : String} {opened : List String}
      (h : schema.reference? = some (dialect.reference name))
      (hdefinition : definitions.value? name = some definition)
      (hwalk : Within dialect definitions definition opened target) :
      Within dialect definitions schema (name :: opened) target

/-- A walk through a schema document, from the top to a property: the names of the properties on the
way and the definitions that it opens. -/
inductive Reaches (dialect : Dialect) (output : JsonSchema) :
    List String → List String → JsonSchema → Prop where
  | root {name : String} {property : JsonSchema}
      (h : output.properties.value? name = some property) :
      Reaches dialect output [name] [] property
  | next {path opened more : List String} {outer object property : JsonSchema} {name : String}
      (hreach : Reaches dialect output path opened outer)
      (hwalk : Within dialect (output.definitionsIn dialect) outer more object)
      (h : object.properties.value? name = some property) :
      Reaches dialect output (path ++ [name]) (opened ++ more) property

/-- A walk inside a schema comes to an object with a property. -/
def Offers (dialect : Dialect) (definitions : Fields JsonSchema) (schema : JsonSchema)
    (opened : List String) (name : String) (property : JsonSchema) : Prop :=
  ∃ object, Within dialect definitions schema opened object ∧
    object.properties.value? name = some property

section Offers

variable {dialect : Dialect} {definitions : Fields JsonSchema} {schema property : JsonSchema}
  {opened : List String} {name : String}

/-- **What a schema offers** is a property of its own, or offered by its items, by a branch, or by
the definition it refers to. -/
theorem offers_iff :
    Offers dialect definitions schema opened name property ↔
      (opened = [] ∧ schema.properties.value? name = some property) ∨
      (∃ items, schema.items? = some items ∧
        Offers dialect definitions items opened name property) ∨
      (∃ branch ∈ schema.branches, Offers dialect definitions branch opened name property) ∨
      ∃ target definition rest, opened = target :: rest ∧
        schema.reference? = some (dialect.reference target) ∧
        definitions.value? target = some definition ∧
        Offers dialect definitions definition rest name property := by
  constructor
  · rintro ⟨object, hwalk, h⟩
    cases hwalk with
    | here => exact Or.inl ⟨rfl, h⟩
    | items hitems hwalk => exact Or.inr (Or.inl ⟨_, hitems, object, hwalk, h⟩)
    | branch hbranch hwalk => exact Or.inr (Or.inr (Or.inl ⟨_, hbranch, object, hwalk, h⟩))
    | reference href hdefinition hwalk =>
        exact Or.inr (Or.inr (Or.inr ⟨_, _, _, rfl, href, hdefinition, object, hwalk, h⟩))
  · rintro (⟨rfl, h⟩ | ⟨items, hitems, object, hwalk, h⟩ | ⟨branch, hbranch, object, hwalk, h⟩ |
      ⟨target, definition, rest, rfl, href, hdefinition, object, hwalk, h⟩)
    · exact ⟨schema, .here schema, h⟩
    · exact ⟨object, .items hitems hwalk, h⟩
    · exact ⟨object, .branch hbranch hwalk, h⟩
    · exact ⟨object, .reference href hdefinition hwalk, h⟩

/-- Schemas that agree on the keywords that lead on offer the same. -/
theorem offers_congr {other : JsonSchema}
    (h : ∀ keyword ∈ ["properties", "items", "allOf", "$ref"],
      schema.value? keyword = other.value? keyword) :
    Offers dialect definitions schema opened name property ↔
      Offers dialect definitions other opened name property := by
  -- Each step of a walk looks at one of the four keywords.
  have hproperties : schema.properties = other.properties := by
    rw [properties, properties, h "properties" (by simp)]
  have hitems : schema.items? = other.items? := by
    rw [items?, items?, h "items" (by simp)]
  have hbranches : schema.branches = other.branches := by
    rw [branches, branches, h "allOf" (by simp)]
  have hreference : schema.reference? = other.reference? := by
    rw [reference?, reference?, h "$ref" (by simp)]
  rw [@offers_iff _ _ schema, @offers_iff _ _ other, hproperties, hitems, hbranches, hreference]

/-- A schema without a keyword that leads on offers nothing. -/
theorem not_offers (h : ∀ keyword ∈ ["properties", "items", "allOf", "$ref"],
    schema.value? keyword = none) : ¬ Offers dialect definitions schema opened name property := by
  have hproperties := h "properties" (by simp)
  have hitems := h "items" (by simp)
  have hbranches := h "allOf" (by simp)
  have hreference := h "$ref" (by simp)
  rw [offers_iff]
  simp [properties, items?, branches, reference?, hproperties, hitems, hbranches, hreference,
    Fields.value?]

theorem not_offers_unconstrained :
    ¬ Offers dialect definitions unconstrained opened name property :=
  not_offers fun _ _ => rfl

theorem offers_object {table : Fields JsonSchema} {required : List String} :
    Offers dialect definitions (object table required) opened name property ↔
      opened = [] ∧ table.value? name = some property := by
  rw [offers_iff]
  simp [properties, items?, branches, reference?, value?, object, keywords, Fields.value?]

theorem offers_allOf {schemas : List JsonSchema} :
    Offers dialect definitions (allOf schemas) opened name property ↔
      ∃ branch ∈ schemas, Offers dialect definitions branch opened name property := by
  rw [offers_iff]
  simp [properties, items?, branches, reference?, value?, allOf, keywords, Fields.value?]

theorem offers_array {minItems? : Option Int} {items : JsonSchema} :
    Offers dialect definitions (array minItems? items) opened name property ↔
      Offers dialect definitions items opened name property := by
  rw [offers_iff]
  cases minItems? <;>
    simp [properties, items?, branches, reference?, value?, array, keywords, Fields.value?]

theorem offers_reference {target : String} :
    Offers dialect definitions (reference (dialect.reference target)) opened name property ↔
      ∃ definition rest, opened = target :: rest ∧ definitions.value? target = some definition ∧
        Offers dialect definitions definition rest name property := by
  have hreference : (reference (dialect.reference target)).reference? =
      some (dialect.reference target) := rfl
  rw [offers_iff, hreference]
  simp only [properties, items?, branches, value?, reference, keywords, Fields.value?]
  constructor
  · rintro (⟨-, h⟩ | ⟨items, h, -⟩ | ⟨branch, h, -⟩ | ⟨found, definition, rest, hopened, h, hrest⟩)
    · cases h
    · cases h
    · cases h
    · -- A dialect writes different references for different names.
      cases dialect.reference_inj (Option.some.inj h)
      exact ⟨definition, rest, hopened, hrest⟩
  · rintro ⟨definition, rest, hopened, hrest⟩
    exact Or.inr (Or.inr (Or.inr ⟨target, definition, rest, hopened, rfl, hrest⟩))

end Offers

/-! ## Setting keywords -/

theorem value?_put (schema : JsonSchema) (keyword other : String) (value : Keyword) :
    (schema.put keyword value).value? other =
      if keyword = other then some value else schema.value? other :=
  Fields.value?_put schema.keywords keyword other value

theorem value?_update (schema extra : JsonSchema) (keyword : String) :
    (schema.update extra).value? keyword =
      (Fields.value? (Fields.ofEntries extra.keywords) keyword).or (schema.value? keyword) :=
  Fields.value?_update schema.keywords extra.keywords keyword

end JsonSchema

end SchemaBridge
