import SchemaBridge.Proofs.JsonSchema.ReferenceMaps
import SchemaBridge.Proofs.JsonSchema.SideBySide
import SchemaBridge.Proofs.JsonSchema.TextSchemas

/-!
# Conversions with other references

Two conversions may write references differently: in another dialect, or to types with new names.
When they treat the same types as primitive, note origins alike and follow the same array policy,
references are all that differs (`Conversion.Translates`): whatever the second one writes is what the
first one writes, with its references changed (`Translates.sideBySide`), and the schema documents
differ in the value of `$schema`, the keyword of the definitions and the names there besides
(`Translates.schemaDocument`).
-/

set_option autoImplicit false

namespace SchemaBridge

open Xsd JsonSchema

/-! ## Related by a function -/

section Functions

variable {α β : Type} {f : α → β} {rename : String → String}

theorem optionRel_iff_map {a? : Option α} {b? : Option β} :
    Option.Rel (fun a b => b = f a) a? b? ↔ b? = a?.map f := by
  constructor
  · rintro (h | _)
    · rw [Option.map_some, h]
    · rfl
  · rintro rfl
    cases a? with
    | none => exact .none
    | some a => exact .some rfl

theorem forall₂_iff_map {list : List α} {others : List β} :
    List.Forall₂ (fun a b => b = f a) list others ↔ others = list.map f := by
  constructor
  · intro h
    induction h with
    | nil => rfl
    | cons hfirst _ ih => rw [List.map_cons, hfirst, ih]
  · rintro rfl
    rw [List.forall₂_map_right_iff, List.forall₂_same]
    exact fun _ _ => rfl

theorem Fields.alike_iff_relabel {fields : Fields α} {others : Fields β} :
    Fields.Alike rename (fun a b => b = f a) fields others ↔ others = fields.relabel rename f := by
  rw [Fields.relabel, ← forall₂_iff_map, Fields.Alike]
  simp only [Prod.ext_iff]

end Functions

namespace Options

/-- Names of types and groups do not decide what becomes an array. -/
theorem isArrayMember_rename (options : Options) (r : Renaming) (m : Member) :
    options.isArrayMember (m.rename r) = options.isArrayMember m := by
  rw [isArrayMember, isArrayMember, Member.rename, isArrayElement, isArrayElement,
    Element.rename_occurs, Element.rename_name?]

end Options

namespace Conversion

theorem presented_rename (r : Renaming) (element : Element) :
    presented (element.rename r) = presented element := by
  funext isArray single?
  rw [presented, presented, Element.rename_name?, Element.rename_occurs]

/-! ## The law -/

/-- The second conversion treats types under their new names as the first one does under their old
ones, but for its references, which a function makes from those of the first one. -/
structure Translates (c d : Conversion) (r : Renaming) (f : String → String) : Prop where
  registry : d.registry = c.registry.rename r
  typeMap : d.typeMap = c.typeMap
  policy : ∀ m, d.options.isArrayMember m = c.options.isArrayMember m
  /-- Primitive types have no new names. -/
  fixed : ∀ name, c.typeMap.isPrimitive name = true → r.typeName name = name
  origin : ∀ name schema, d.noteOrigin (r.typeName name) schema = c.noteOrigin name schema
  reference : ∀ name, f (c.options.dialect.reference name) =
    d.options.dialect.reference (r.typeName name)
  referFree : c.MapReferFree

/-- A restriction is written without references. -/
theorem mapReferences_restrictionSchema? {c : Conversion} {f : String → String} {r : Restriction}
    {schema : JsonSchema} (h : c.restrictionSchema? r = some schema) :
    schema.mapReferences f = schema := by
  obtain ⟨base, hkeywords⟩ := exists_ofRestriction h
  apply mapReferences_eq_self
  · exact fun entry hentry => (hkeywords entry hentry).ne_reference
  · -- The only schemas below it are patterns.
    intro inner hinner
    obtain ⟨entry, hentry, hinner⟩ := List.mem_flatMap.1 hinner
    obtain ⟨pattern, rfl⟩ := (hkeywords entry hentry).mem_children hinner
    rfl

namespace Translates

variable {c d : Conversion} {r : Renaming} {f : String → String}

/-- A type is primitive under its new name when it is so under its old one: no other name is sent to
that of a primitive type, because that is sent to itself. -/
theorem isPrimitive (h : c.Translates d r f) (name : String) :
    d.typeMap.isPrimitive (r.typeName name) = c.typeMap.isPrimitive name := by
  rw [h.typeMap, Bool.eq_iff_iff]
  constructor
  · intro hprimitive
    have hname : r.typeName name = name :=
      r.typeName_injective (h.fixed (r.typeName name) hprimitive)
    rw [← hname]
    exact hprimitive
  · intro hprimitive
    rw [h.fixed name hprimitive]
    exact hprimitive

theorem referenceTo (h : c.Translates d r f) (name : String) :
    d.referenceTo (r.typeName name) = (c.referenceTo name).mapReferences f := by
  rw [Conversion.referenceTo, Conversion.referenceTo, mapReferences_reference, h.reference]

theorem noteOrigin (h : c.Translates d r f) (name : String) (schema : JsonSchema) :
    d.noteOrigin (r.typeName name) (schema.mapReferences f) =
      (c.noteOrigin name schema).mapReferences f := by
  rw [h.origin]
  unfold Conversion.noteOrigin
  rw [apply_ite (JsonSchema.mapReferences f), mapReferences_put]
  rfl

theorem bareTypeSchema (h : c.Translates d r f) (name : String) :
    d.bareTypeSchema (r.typeName name) = (c.bareTypeSchema name).mapReferences f := by
  unfold Conversion.bareTypeSchema
  rw [h.isPrimitive]
  cases hprimitive : c.typeMap.isPrimitive name with
  | true =>
      have hsame : (c.primitiveSchema name).mapReferences f = c.primitiveSchema name := by
        rw [mapReferences_eq, primitiveSchema]
        simp [keywords, keywordMapReferences]
      rw [if_pos rfl, if_pos rfl, hsame, h.fixed name hprimitive, primitiveSchema, h.typeMap]
      rfl
  | false =>
      rw [if_neg Bool.false_ne_true, if_neg Bool.false_ne_true]
      exact h.referenceTo name

theorem unionMemberSchema (h : c.Translates d r f) (name : String) :
    d.unionMemberSchema (r.typeName name) = (c.unionMemberSchema name).mapReferences f := by
  unfold Conversion.unionMemberSchema
  rw [h.isPrimitive]
  cases hprimitive : c.typeMap.isPrimitive name with
  | true =>
      rw [if_pos rfl, if_pos rfl, h.fixed name hprimitive, h.typeMap, mapReferences_eq_self]
      · -- The keywords of a primitive type are data, and none of them is a reference.
        intro entry hentry
        obtain ⟨mapped, hmapped, rfl⟩ := List.mem_map.1 hentry
        exact (h.referFree name mapped.1 mapped.2 (List.mem_filter.1 hmapped).1).1
      · intro inner hinner
        obtain ⟨entry, hentry, hinner⟩ := List.mem_flatMap.1 hinner
        obtain ⟨mapped, -, rfl⟩ := List.mem_map.1 hentry
        cases hinner
  | false =>
      rw [if_neg Bool.false_ne_true, if_neg Bool.false_ne_true]
      exact h.referenceTo name

theorem restrictionSchema? (h : c.Translates d r f) (restriction : Restriction) :
    d.restrictionSchema? (restriction.rename r) =
      (c.restrictionSchema? restriction).map (JsonSchema.mapReferences f) := by
  have hsame : d.restrictionSchema? (restriction.rename r) = c.restrictionSchema? restriction := by
    have hbase : (restriction.rename r).base? = restriction.base?.map r.typeName := rfl
    unfold Conversion.restrictionSchema?
    rw [hbase, r.nonempty?_typeName]
    cases nonempty? restriction.base? with
    | none => rfl
    | some base =>
        simp only [Option.map_some, h.isPrimitive, h.origin]
        cases hprimitive : c.typeMap.isPrimitive base with
        | false => rfl
        | true =>
            rw [if_pos rfl, if_pos rfl, h.fixed base hprimitive, h.typeMap]
            rfl
  rw [hsame]
  cases hschema : c.restrictionSchema? restriction with
  | none => rfl
  | some schema => rw [Option.map_some, mapReferences_restrictionSchema? hschema]

theorem unionSchema? (h : c.Translates d r f) (union : Union) :
    d.unionSchema? (union.rename r) =
      (c.unionSchema? union).map (JsonSchema.mapReferences f) := by
  have hmembers : (union.rename r).memberTypes = union.memberTypes.map r.typeName := rfl
  unfold Conversion.unionSchema?
  rw [hmembers, List.isEmpty_map, apply_ite (Option.map (JsonSchema.mapReferences f)),
    Option.map_some, mapReferences_anyOf, List.map_map, List.map_map]
  simp only [Function.comp_def, ← h.unionMemberSchema, Option.map_none]

/-- **References are all that differs**, in whatever the two conversions write. -/
theorem sideBySide (h : c.Translates d r f) {schema : Schema} :
    SideBySide c d r schema (fun s t => t = s.mapReferences f) (fun s t => t = s.mapReferences f) where
  registry := h.registry
  unconstrained := rfl
  array := by
    rintro items _ rfl
    exact (mapReferences_array f none items).symm
  object := by
    intro properties properties' required hproperties
    rw [Fields.alike_iff_relabel.1 hproperties, mapReferences_object]
    rfl
  allOf := by
    rintro base _ added _ rfl rfl
    exact (mapReferences_allOf f [base, added]).symm
  update := by
    rintro keywords _ extra _ rfl rfl
    exact (mapReferences_update f keywords extra).symm
  property := id
  member m _ hsingle := by
    rw [presented_rename, h.policy, Options.isArrayMember_rename]
    refine @presented_rel (fun s t => t = s.mapReferences f) rfl ?_ m.element _ _ _ hsingle
    rintro minItems? items _ rfl
    exact (mapReferences_array f minItems? items).symm
  typeName name := by rw [typeSchema, typeSchema, h.bareTypeSchema, h.noteOrigin]
  elementType name := by
    rw [namedSchema, namedSchema, mapReferences_update, ← h.bareTypeSchema, ← h.noteOrigin,
      mapReferences_unconstrained]
  restriction restriction := optionRel_iff_map.2 (h.restrictionSchema? restriction)
  union union := optionRel_iff_map.2 (h.unionSchema? union)

/-- The schema documents differ in the references, and besides in their dialect and in the names of
the definitions. -/
theorem schemaDocument (h : c.Translates d r f) {schema : Schema}
    (hc : c.registry = Registry.ofSchema schema) (names : OpenNames) :
    d.schemaDocument (names.rename r) (schema.rename r) =
      .node [
        ("$schema", .text d.options.dialect.schemaUri),
        ("type", .text "object"),
        ("properties", .named (Fields.relabel id (JsonSchema.mapReferences f)
          (declaredProperties [] (c.declaredRoots names schema)))),
        ("required", .names (declaredRequired [] (c.declaredRoots names schema))),
        (d.options.dialect.definitionsKey, .named (Fields.relabel r.typeName
          (JsonSchema.mapReferences f) (c.definitions names schema)))] := by
  have hroots := h.sideBySide.declaredRoots hc names
  have hproperties := Fields.alike_iff_relabel.1 (declaredProperties_alike .nil hroots)
  have hdefinitions := Fields.alike_iff_relabel.1 (h.sideBySide.definitions hc names)
  rw [Conversion.schemaDocument, hproperties, hdefinitions, declaredRequired_alike [] hroots]

end Translates

/-- The references of a schema document are those of its properties and of its definitions. -/
theorem mapReferences_schemaDocument (c : Conversion) (f : String → String) (names : OpenNames)
    (schema : Schema) :
    (c.schemaDocument names schema).mapReferences f =
      .node [
        ("$schema", .text c.options.dialect.schemaUri),
        ("type", .text "object"),
        ("properties", .named (Fields.relabel id (JsonSchema.mapReferences f)
          (declaredProperties [] (c.declaredRoots names schema)))),
        ("required", .names (declaredRequired [] (c.declaredRoots names schema))),
        (c.options.dialect.definitionsKey, .named (Fields.relabel id
          (JsonSchema.mapReferences f) (c.definitions names schema)))] := by
  have htable : ∀ table : Fields JsonSchema, Fields.relabel id (JsonSchema.mapReferences f) table =
      tableMapReferences f table := fun table => (tableMapReferences_eq f table).symm
  rw [htable, htable]
  rfl

end Conversion

end SchemaBridge
