import Mathlib.Data.List.Forall2
import SchemaBridge.Proofs.JsonSchema.Nodes
import SchemaBridge.Proofs.Xsd.Renaming

/-!
# Two conversions side by side

Two conversions with different options, one of a schema and one of the same schema under new names,
go through the same declarations in the same order. So what relates their results follows from what
relates their single steps: what a type name, a restriction and a union are written as, what an
object and a composition keep, and what the options make of a member (`Conversion.SideBySide`).

Main results: under such a law the properties of the two documents are related one by one
(`SideBySide.declaredRoots`), and so are their definitions under the new names
(`SideBySide.definitions`).
-/

set_option autoImplicit false

namespace SchemaBridge

open Xsd

/-! ## Related lists and tables -/

section Options

variable {α β γ δ : Type} {R : α → β → Prop} {S : γ → δ → Prop} {a? : Option α} {b? : Option β}

theorem optionRel_refl {R : α → α → Prop} (h : ∀ a, R a a) (a? : Option α) : Option.Rel R a? a? := by
  cases a? with
  | none => exact .none
  | some a => exact .some (h a)

theorem optionRel_map {f : α → γ} {g : β → δ} (h : Option.Rel R a? b?)
    (hmap : ∀ a b, R a b → S (f a) (g b)) : Option.Rel S (a?.map f) (b?.map g) := by
  cases h with
  | none => exact .none
  | some hab => exact .some (hmap _ _ hab)

theorem optionRel_bind {f : α → Option γ} {g : β → Option δ} (h : Option.Rel R a? b?)
    (hbind : ∀ a b, R a b → Option.Rel S (f a) (g b)) : Option.Rel S (a?.bind f) (b?.bind g) := by
  cases h with
  | none => exact .none
  | some hab => exact hbind _ _ hab

end Options

theorem forall₂_filterMap {α β γ : Type} {R : β → γ → Prop} {f : α → Option β} {g : α → Option γ}
    {list : List α} (h : ∀ a ∈ list, Option.Rel R (f a) (g a)) :
    List.Forall₂ R (list.filterMap f) (list.filterMap g) := by
  induction list with
  | nil => exact .nil
  | cons first rest ih =>
      have hfirst := h first (List.mem_cons_self ..)
      have hrest := ih fun a ha => h a (List.mem_cons_of_mem _ ha)
      rw [List.filterMap_cons, List.filterMap_cons]
      cases hf : f first <;> cases hg : g first <;> rw [hf, hg] at hfirst
      · exact hrest
      · cases hfirst
      · cases hfirst
      · cases hfirst with
        | some hvalue => exact .cons hvalue hrest

namespace Fields

variable {α β : Type} {rename : String → String}

section Entries

variable {E : String × α → String × β → Prop}

/-- Insertion keeps tables related whose entries have their names from each other. -/
theorem forall₂_put (hrename : Function.Injective rename)
    (hnames : ∀ {entry other}, E entry other → other.1 = rename entry.1)
    {first : Fields α} {second : Fields β} (h : List.Forall₂ E first second)
    {entry : String × α} {other : String × β} (hentry : E entry other) :
    List.Forall₂ E (first.put entry.1 entry.2) (second.put other.1 other.2) := by
  induction h with
  | nil => exact .cons hentry .nil
  | @cons found found' rest rest' hfound hrest ih =>
      rw [Fields.put, Fields.put, hnames hfound, hnames hentry]
      simp only [hrename.eq_iff]
      split
      · rename_i hkey
        rw [hkey, ← hnames hentry]
        exact .cons hentry hrest
      · rw [← hnames hfound, ← hnames hentry]
        exact .cons hfound ih

theorem forall₂_update (hrename : Function.Injective rename)
    (hnames : ∀ {entry other}, E entry other → other.1 = rename entry.1)
    {first extra : Fields α} {second extra' : Fields β} (h : List.Forall₂ E first second)
    (hextra : List.Forall₂ E extra extra') :
    List.Forall₂ E (first.update extra) (second.update extra') := by
  -- The tables change with each pair of inserted entries, so they are generalized.
  induction hextra generalizing first second with
  | nil => exact h
  | cons hentry _ ih => exact ih (forall₂_put hrename hnames h hentry)

end Entries

variable {R : α → β → Prop}

/-- Two tables have related values in the same order, under names of which the second table has new
ones. -/
def Alike (rename : String → String) (R : α → β → Prop) (first : Fields α) (second : Fields β) :
    Prop :=
  List.Forall₂ (fun entry other => other.1 = rename entry.1 ∧ R entry.2 other.2) first second

theorem Alike.update (hrename : Function.Injective rename) {first extra : Fields α}
    {second extra' : Fields β} (h : Alike rename R first second)
    (hextra : Alike rename R extra extra') :
    Alike rename R (first.update extra) (second.update extra') :=
  forall₂_update hrename And.left h hextra

end Fields

/-! ## Declared properties -/

/-- Two declarations of the same property with related schemas. -/
structure Declared.Alike (P : JsonSchema → JsonSchema → Prop) (d other : Declared) : Prop where
  name : other.name = d.name
  schema : P d.schema other.schema
  required : other.required = d.required

section DeclaredAlike

variable {P : JsonSchema → JsonSchema → Prop} {declared others : List Declared}

theorem declaredProperties_alike {earlier earlier' : Fields JsonSchema}
    (hearlier : Fields.Alike id P earlier earlier')
    (h : List.Forall₂ (Declared.Alike P) declared others) :
    Fields.Alike id P (declaredProperties earlier declared) (declaredProperties earlier' others) := by
  refine hearlier.update Function.injective_id ?_
  rw [Fields.Alike, List.forall₂_map_left_iff, List.forall₂_map_right_iff]
  exact h.imp fun d other hd => ⟨hd.name, hd.schema⟩

theorem declaredRequired_alike (earlier : List String)
    (h : List.Forall₂ (Declared.Alike P) declared others) :
    declaredRequired earlier others = declaredRequired earlier declared := by
  have hnames : (others.filter Declared.required).map Declared.name =
      (declared.filter Declared.required).map Declared.name := by
    induction h with
    | nil => rfl
    | @cons d other rest rest' hd hrest ih =>
        rw [List.filter_cons, List.filter_cons, hd.required]
        split
        · rw [List.map_cons, List.map_cons, ih, hd.name]
        · exact ih
  rw [declaredRequired, declaredRequired, hnames]

end DeclaredAlike

/-! ## Shapes of renamed types -/

/-- A shape with all names of types and groups in it renamed. -/
def ContentShape.rename (r : Renaming) : ContentShape → ContentShape
  | .extended base extension => .extended (r.typeName base) (extension.rename r)
  | .text base extension => .text (r.typeName base) (extension.rename r)
  | .plain sequence? => .plain (sequence?.map (Sequence.rename r))

theorem extendedBase?_rename (r : Renaming) (extension? : Option Extension) :
    extendedBase? (extension?.map (Extension.rename r)) =
      (extendedBase? extension?).map fun found => (r.typeName found.1, found.2.rename r) := by
  cases extension? with
  | none => rfl
  | some extension =>
      simp only [extendedBase?, Option.map_some, Option.bind_some, Extension.rename_base?,
        r.nonempty?_typeName, Option.map_map]
      rfl

theorem contentShape_rename (r : Renaming) (type : ComplexType) :
    contentShape (type.rename r) = (contentShape type).rename r := by
  rw [contentShape_eq, contentShape_eq, ComplexType.rename_complexContent?,
    ComplexType.rename_simpleContent?, ComplexType.rename_sequence?, extendedBase?_rename,
    extendedBase?_rename]
  cases extendedBase? type.complexContent? with
  | some found => rfl
  | none =>
      cases extendedBase? type.simpleContent? with
      | some found => rfl
      | none => rfl

theorem ContentShape.rename_sequence? (r : Renaming) (shape : ContentShape) :
    (shape.rename r).sequence? = shape.sequence?.map (Sequence.rename r) := by
  cases shape with
  | extended base extension => exact extension.rename_sequence? r
  | text base extension => rfl
  | plain sequence? => rfl

namespace Conversion

/-! ## The law -/

/-- Related single occurrences are presented alike, where arrays of related items are related. -/
theorem presented_rel {R : JsonSchema → JsonSchema → Prop}
    (hunconstrained : R .unconstrained .unconstrained)
    (harray : ∀ minItems? {items items'}, R items items' →
      R (.array minItems? items) (.array minItems? items'))
    (element : Element) (isArray : Bool) {single? other? : Option JsonSchema}
    (h : Option.Rel R single? other?) :
    Option.Rel R (presented element isArray single?) (presented element isArray other?) := by
  unfold presented
  cases nonempty? element.name? with
  | none => exact .none
  | some name =>
      dsimp only
      split
      · refine .some (harray _ ?_)
        cases h with
        | none => exact hunconstrained
        | some h => exact h
      · exact h

/-- What relates the single steps of two conversions, the second one with new names for types and
groups. Schemas of types and elements are to be in the relation `R`, and schemas of properties in
the relation `P`. -/
structure SideBySide (c d : Conversion) (r : Renaming) (schema : Schema)
    (R P : JsonSchema → JsonSchema → Prop) : Prop where
  registry : d.registry = c.registry.rename r
  unconstrained : R .unconstrained .unconstrained
  /-- A list of items. -/
  array : ∀ {items items'}, R items items' → R (.array none items) (.array none items')
  object : ∀ {properties properties'} required, Fields.Alike id P properties properties' →
    R (.object properties required) (.object properties' required)
  /-- A base type with what a type adds to it. -/
  allOf : ∀ {base base' added added'}, R base base' → R added added' →
    R (.allOf [base, added]) (.allOf [base', added'])
  /-- The keywords of a complex type laid over those of a simple type or a type name. -/
  update : ∀ {keywords keywords' extra extra'}, R keywords keywords' → R extra extra' →
    R (keywords.update extra) (keywords'.update extra')
  /-- A property that the options leave as it is. -/
  property : ∀ {s s'}, R s s' → P s s'
  /-- What the options make of a member, from the schemas of a single occurrence. -/
  member : ∀ m : Member, schema.Contains (.element m.element) →
    Option.Rel R (c.singleSchema? m.names m.element)
      (d.singleSchema? (m.names.rename r) (m.element.rename r)) →
    Option.Rel P
      (presented m.element (c.options.isArrayMember m) (c.singleSchema? m.names m.element))
      (presented (m.element.rename r) (d.options.isArrayMember (m.rename r))
        (d.singleSchema? (m.names.rename r) (m.element.rename r)))
  typeName : ∀ name, R (c.typeSchema name) (d.typeSchema (r.typeName name))
  /-- The type that an element names. -/
  elementType : ∀ name, R (c.namedSchema name) (d.namedSchema (r.typeName name))
  restriction : ∀ restriction : Restriction, Option.Rel R (c.restrictionSchema? restriction)
    (d.restrictionSchema? (restriction.rename r))
  union : ∀ union : Union, Option.Rel R (c.unionSchema? union)
    (d.unionSchema? (union.rename r))

namespace SideBySide

variable {c d : Conversion} {r : Renaming} {schema : Schema}
variable {R P : JsonSchema → JsonSchema → Prop}

theorem simpleType (law : SideBySide c d r schema R P) (type : SimpleType) :
    Option.Rel R (c.simpleTypeSchema? type) (d.simpleTypeSchema? (type.rename r)) := by
  -- Only the inline items of a list lead from a simple type to another one.
  induction type using SimpleType.itemsInduction with
  | step type ih =>
      cases hlist : type.list? with
      | some list =>
          have hrenamed : (type.rename r).list? = some (list.rename r) := by
            rw [SimpleType.rename_list?, hlist, Option.map_some]
          rw [simpleTypeSchema?_of_list _ hlist, simpleTypeSchema?_of_list _ hrenamed,
            listSchema?_eq, listSchema?_eq, ListType.rename_itemType?, ListType.rename_simpleType?,
            r.nonempty?_typeName]
          cases nonempty? list.itemType? with
          | some typeName => exact .some (law.array (law.typeName typeName))
          | none =>
              cases hinner : list.simpleType? with
              | none => exact .none
              | some inner =>
                  exact optionRel_map (ih list inner hlist hinner) fun _ _ h => law.array h
      | none =>
          have hrenamed : (type.rename r).list? = none := by
            rw [SimpleType.rename_list?, hlist, Option.map_none]
          rw [simpleTypeSchema?_of_no_list _ hlist, simpleTypeSchema?_of_no_list _ hrenamed,
            SimpleType.rename_restriction?, SimpleType.rename_union?]
          cases type.restriction? with
          | some restriction => exact law.restriction restriction
          | none =>
              cases type.union? with
              | some union => exact law.union union
              | none => exact .none

theorem typeKeywords (law : SideBySide c d r schema R P) (element : Element) :
    Option.Rel R (c.typeKeywords? element) (d.typeKeywords? (element.rename r)) := by
  unfold typeKeywords?
  rw [Element.rename_simpleType?, Element.rename_complexType?, Element.rename_typeName?,
    r.nonempty?_typeName]
  cases element.simpleType? with
  | some type =>
      simp only [Option.map_some, Option.isSome_map]
      have htype := law.simpleType type
      cases hc : c.simpleTypeSchema? type with
      | none =>
          cases hd : d.simpleTypeSchema? (type.rename r) with
          | none =>
              dsimp only
              split
              · exact .some law.unconstrained
              · exact .none
          | some s =>
              rw [hc, hd] at htype
              cases htype
      | some s =>
          cases hd : d.simpleTypeSchema? (type.rename r) with
          | none =>
              rw [hc, hd] at htype
              cases htype
          | some s' =>
              rw [hc, hd] at htype
              exact htype
  | none =>
      cases nonempty? element.typeName? with
      | none => exact .some law.unconstrained
      | some typeName => exact .some (law.elementType typeName)

theorem attributeSchema (law : SideBySide c d r schema R P) (a : Attribute) :
    Option.Rel R (c.attributeSchema? a) (d.attributeSchema? (a.rename r)) := by
  unfold attributeSchema?
  simp only [Attribute.rename, r.nonempty?_typeName]
  cases nonempty? a.typeName? with
  | some typeName => exact .some (law.typeName typeName)
  | none =>
      cases a.simpleType? with
      | none => exact .none
      | some type =>
          simp only [Option.map_some, Option.bind_some, Option.map_none,
            SimpleType.rename_restriction?]
          cases type.restriction? with
          | none => exact .none
          | some restriction => exact law.restriction restriction

theorem declaredAttributes (law : SideBySide c d r schema R P) (attributes : List Attribute) :
    List.Forall₂ (Declared.Alike P) (c.declaredAttributes attributes)
      (d.declaredAttributes (attributes.map (Attribute.rename r))) := by
  unfold Conversion.declaredAttributes
  rw [List.filterMap_map]
  apply forall₂_filterMap
  intro a _
  have hname : (a.rename r).name? = a.name? := rfl
  rw [Function.comp_apply, hname]
  cases nonempty? a.name? with
  | none => exact .none
  | some name =>
      simp only [Option.bind_eq_bind, Option.bind_some]
      exact optionRel_bind (law.attributeSchema a) fun _ _ h => .some ⟨rfl, law.property h, rfl⟩

theorem objectOf (law : SideBySide c d r schema R P) {declared others : List Declared}
    (h : List.Forall₂ (Declared.Alike P) declared others) :
    R (objectOf declared) (objectOf others) := by
  rw [SchemaBridge.objectOf, SchemaBridge.objectOf, declaredRequired_alike [] h]
  exact law.object _ (declaredProperties_alike .nil h)

theorem textObject (law : SideBySide c d r schema R P) (base : String)
    (attributes : List Attribute) :
    R (c.textObject base attributes)
      (d.textObject (r.typeName base) (attributes.map (Attribute.rename r))) := by
  have hattributes := law.declaredAttributes attributes
  have htext : Fields.Alike id P [("#text", c.typeSchema base)]
      [("#text", d.typeSchema (r.typeName base))] :=
    .cons ⟨rfl, law.property (law.typeName base)⟩ .nil
  simp only [Conversion.textObject, declaredRequired_alike ["#text"] hattributes]
  exact law.object _ (declaredProperties_alike htext hattributes)

/-- The members of a type become related properties when their single occurrences are related. -/
theorem declaredElements (law : SideBySide c d r schema R P) (names : OpenNames)
    (sequence? : Option Sequence)
    (h : ∀ m ∈ Sequence.optionalMembers c.registry names sequence?,
      schema.Contains (.element m.element) ∧ Option.Rel R (c.singleSchema? m.names m.element)
        (d.singleSchema? (m.names.rename r) (m.element.rename r))) :
    List.Forall₂ (Declared.Alike P) (c.declaredElements names sequence?)
      (d.declaredElements (names.rename r) (sequence?.map (Sequence.rename r))) := by
  rw [declaredElements_eq, declaredElements_eq, law.registry, Sequence.optionalMembers_rename,
    declaredBelow, declaredBelow, List.filterMap_map]
  apply forall₂_filterMap
  intro m hm
  have hname : (m.rename r).element.name? = m.element.name? := m.element.rename_name? r
  have hrequired : (m.rename r).element.isRequired = m.element.isRequired :=
    m.element.rename_isRequired r
  rw [Function.comp_apply, declaredMember?, declaredMember?, hname, hrequired]
  exact optionRel_map (law.member m (h m hm).1 (h m hm).2) fun _ _ hproperty =>
    ⟨rfl, hproperty, rfl⟩

/-- **The two conversions write related schemas** for each element and each complex type that the
schema contains. -/
theorem elements (law : SideBySide c d r schema R P) (hc : c.registry = Registry.ofSchema schema) :
    (∀ names element, schema.Contains (.element element) →
      Option.Rel R (c.singleSchema? names element)
        (d.singleSchema? (names.rename r) (element.rename r))) ∧
    ∀ names type, schema.Contains (.complexType type) →
      R (c.complexTypeSchema names type)
        (d.complexTypeSchema (names.rename r) (type.rename r)) := by
  apply emissionInduction (c := c)
  · intro names element hname _
    rw [singleSchema?_eq, singleSchema?_eq, Element.rename_name?, hname]
    exact .none
  · intro names element ih helement
    rw [singleSchema?_eq, singleSchema?_eq, Element.rename_name?, Element.rename_complexType?]
    cases nonempty? element.name? with
    | none => exact .none
    | some name =>
        refine optionRel_map (law.typeKeywords element) fun keywords keywords' hkeywords => ?_
        cases htype : element.complexType? with
        | none => exact hkeywords
        | some type => exact law.update hkeywords (ih type htype (.inline helement htype))
  · intro names type ih htype
    rw [complexTypeSchema_eq, complexTypeSchema_eq, ComplexType.rename_name?,
      OpenNames.enter_typeName]
    cases henter : names.enter .complexType type.name? with
    | none => exact law.unconstrained
    | some inner =>
        have helements := law.declaredElements inner (contentShape type).sequence? fun m hm =>
          have hmember := htype.of_mem_optionalMembers (hc ▸ hm)
          ⟨hmember, ih inner m henter hm hmember⟩
        simp only [Option.map_some, contentSchema, contentShape_rename,
          ContentShape.rename_sequence?]
        -- What a type adds depends on its shape, and both types have the same one.
        cases hshape : contentShape type with
        | extended base extension =>
            rw [hshape] at helements
            refine law.allOf (law.typeName base) (law.objectOf (List.rel_append helements ?_))
            rw [Extension.rename_attributes]
            exact law.declaredAttributes extension.attributes
        | text base extension =>
            simp only [ContentShape.rename, Extension.rename_attributes]
            exact law.textObject base extension.attributes
        | plain sequence? =>
            rw [hshape] at helements
            exact law.objectOf helements

/-- The top-level elements become related properties; none of them is an array. -/
theorem declaredRoots (law : SideBySide c d r schema R P)
    (hc : c.registry = Registry.ofSchema schema) (names : OpenNames) :
    List.Forall₂ (Declared.Alike P) (c.declaredRoots names schema)
      (d.declaredRoots (names.rename r) (schema.rename r)) := by
  unfold Conversion.declaredRoots Schema.rename
  rw [List.filterMap_map]
  apply forall₂_filterMap
  intro element helement
  have hsingle := (law.elements hc).1 names element (.element helement)
  have hplain : ∀ (options : Options) (e : Element), options.isArrayElement e false = false :=
    fun _ _ => rfl
  simp only [Function.comp_apply, elementSchema?, hplain, Bool.or_self, Element.rename_name?,
    Element.rename_isRequired, presented, Bool.false_eq_true, if_false]
  cases nonempty? element.name? with
  | none => exact .none
  | some name => exact optionRel_map hsingle fun _ _ h => ⟨rfl, law.property h, rfl⟩

/-- The definitions are related one by one, under the new names. -/
theorem definitions (law : SideBySide c d r schema R P)
    (hc : c.registry = Registry.ofSchema schema) (names : OpenNames) :
    Fields.Alike r.typeName R (c.definitions names schema)
      (d.definitions (names.rename r) (schema.rename r)) := by
  unfold Conversion.definitions Fields.ofEntries Schema.rename
  refine Fields.Alike.update r.typeName_injective .nil (List.rel_append ?_ ?_)
  · rw [List.filterMap_map]
    apply forall₂_filterMap
    intro type _
    simp only [Function.comp_apply, SimpleType.rename_name?, r.nonempty?_typeName]
    cases nonempty? type.name? with
    | none => exact .none
    | some name =>
        simp only [Option.map_some, Option.bind_eq_bind, Option.bind_some]
        exact optionRel_bind (law.simpleType type) fun _ _ h => .some ⟨rfl, h⟩
  · rw [List.filterMap_map]
    apply forall₂_filterMap
    intro type hmem
    have htype := (law.elements hc).2 names type (.complexType hmem)
    simp only [Function.comp_apply, ComplexType.rename_name?, r.nonempty?_typeName]
    cases nonempty? type.name? with
    | none => exact .none
    | some name => exact .some ⟨rfl, htype⟩

end SideBySide

/-! ## Outcomes -/

/-- Both fail with the same error, or both succeed with related results. -/
inductive SameOutcome {α β : Type} (R : α → β → Prop) :
    Except Failure α → Except Failure β → Prop where
  | error (failure : Failure) : SameOutcome R (.error failure) (.error failure)
  | ok {a : α} {b : β} (h : R a b) : SameOutcome R (.ok a) (.ok b)

/-- Results that are made equal give equal outcomes. -/
theorem SameOutcome.map_eq {α β γ : Type} {f : α → γ} {g : β → γ} {first : Except Failure α}
    {second : Except Failure β} (h : SameOutcome (fun a b => f a = g b) first second) :
    first.map f = second.map g := by
  cases h with
  | error failure => rfl
  | ok h => exact congrArg Except.ok h

/-- New names do not change whether a document can be converted. -/
theorem sameOutcome_emitWith {c d : Conversion} {r : Renaming}
    {R : JsonSchema → JsonSchema → Prop} (names : OpenNames) (document : Document)
    (h : ∀ schema, document.schema? = some schema →
      R (c.schemaDocument names schema) (d.schemaDocument (names.rename r) (schema.rename r))) :
    SameOutcome R (c.emitWith names document)
      (d.emitWith (names.rename r) (document.rename r)) := by
  unfold emitWith Document.rename
  cases hschema : document.schema? with
  | none => exact .error _
  | some schema =>
      simp only [Option.map_some, Schema.rename, List.isEmpty_map]
      split
      · exact .error _
      · exact .ok (h schema hschema)

end Conversion

end SchemaBridge
