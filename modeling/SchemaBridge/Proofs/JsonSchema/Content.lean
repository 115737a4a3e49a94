import SchemaBridge.JsonSchema.Emission

/-!
# What schemas of types and elements are made of

Equations of the recursion that builds schemas, without the bookkeeping that its termination needs.
`Conversion.contentSchema` is the schema of a type inside its own name, and
`Conversion.declaredBelow` lists the properties that the members of a sequence become. A document has
a converted schema exactly when it has a schema with a top-level element (`convertWith_eq_ok_iff`).
-/

set_option autoImplicit false

namespace SchemaBridge

open Xsd

/-- The base that an extension names, with the extension. -/
def extendedBase? (extension? : Option Extension) : Option (String × Extension) :=
  extension?.bind fun e => (nonempty? e.base?).map fun base => (base, e)

theorem extendedBase?_eq_some_iff (extension? : Option Extension) (base : String)
    (extension : Extension) :
    extendedBase? extension? = some (base, extension) ↔
      extension? = some extension ∧ nonempty? extension.base? = some base := by
  cases extension? with
  | none => simp [extendedBase?]
  | some found =>
      simp only [extendedBase?, Option.bind_some, Option.map_eq_some_iff, Prod.mk.injEq,
        Option.some.injEq]
      constructor
      · rintro ⟨name, hname, rfl, rfl⟩
        exact ⟨rfl, hname⟩
      · rintro ⟨rfl, hname⟩
        exact ⟨base, hname, rfl, rfl⟩

theorem contentShape_eq (type : ComplexType) :
    contentShape type =
      match extendedBase? type.complexContent? with
      | some (base, extension) => .extended base extension
      | none =>
          match extendedBase? type.simpleContent? with
          | some (base, extension) => .text base extension
          | none => .plain type.sequence? := rfl

/-- A type extends a base exactly when its complex content names one. -/
theorem contentShape_eq_extended_iff (type : ComplexType) (base : String)
    (extension : Extension) :
    contentShape type = .extended base extension ↔
      type.complexContent? = some extension ∧ nonempty? extension.base? = some base := by
  rw [contentShape_eq, ← extendedBase?_eq_some_iff]
  cases extendedBase? type.complexContent? with
  | some pair => simp [Prod.ext_iff]
  | none => cases extendedBase? type.simpleContent? <;> simp

/-- The sequence of a shape is that of the type or that of its extension. -/
theorem sequence?_contentShape (type : ComplexType) {sequence : Sequence}
    (h : (contentShape type).sequence? = some sequence) :
    type.sequence? = some sequence ∨
      ∃ extension, type.complexContent? = some extension ∧
        extension.sequence? = some sequence := by
  rw [contentShape_eq] at h
  split at h
  · rename_i base extension hextended
    exact Or.inr ⟨extension, ((extendedBase?_eq_some_iff ..).1 hextended).1, h⟩
  · split at h
    · cases h
    · exact Or.inl h

namespace Conversion

variable (c : Conversion)

/-- The schema of a list is that of an array of its items. -/
theorem listSchema?_eq (list : ListType) :
    c.listSchema? list =
      (match nonempty? list.itemType?, list.simpleType? with
        | some typeName, _ => some (c.typeSchema typeName)
        | none, some type => c.simpleTypeSchema? type
        | none, none => none).map fun items => .array none items := by
  cases list
  exact listSchema?.eq_def c _

theorem simpleTypeSchema?_of_list {type : SimpleType} {list : ListType}
    (h : type.list? = some list) : c.simpleTypeSchema? type = c.listSchema? list := by
  cases type
  cases h
  rw [simpleTypeSchema?]

theorem simpleTypeSchema?_of_no_list {type : SimpleType} (h : type.list? = none) :
    c.simpleTypeSchema? type =
      match type.restriction?, type.union? with
      | some restriction, _ => c.restrictionSchema? restriction
      | none, some union => c.unionSchema? union
      | none, none => none := by
  obtain ⟨name?, restriction?, union?, list?⟩ := type
  cases h
  cases restriction? with
  | some restriction => rw [simpleTypeSchema?]
  | none =>
      cases union? with
      | some union => rw [simpleTypeSchema?]
      | none => rw [simpleTypeSchema?]

/-- The schema of a complex type whose name is open already. -/
def contentSchema (names : OpenNames) (type : ComplexType) : JsonSchema :=
  let elements := c.declaredElements names (contentShape type).sequence?
  match contentShape type with
  | .extended base extension =>
      .allOf [c.typeSchema base, objectOf (elements ++ c.declaredAttributes extension.attributes)]
  | .text base extension => c.textObject base extension.attributes
  | .plain _ => objectOf elements

/-- The properties that members become. -/
def declaredBelow (members : List Member) : List Declared :=
  members.filterMap fun m => c.declaredMember? m (c.singleSchema? m.names m.element)

theorem declaredElements_eq (names : OpenNames) (sequence? : Option Sequence) :
    c.declaredElements names sequence? =
      c.declaredBelow (Sequence.optionalMembers c.registry names sequence?) := by
  rw [declaredElements, declaredBelow]
  simp

theorem complexTypeSchema_eq (names : OpenNames) (type : ComplexType) :
    c.complexTypeSchema names type =
      match names.enter .complexType type.name? with
      | none => .unconstrained
      | some inner => c.contentSchema inner type := by
  rw [complexTypeSchema]
  split <;> rename_i h <;> simp only [h]
  rfl

/-- A type without a name is written as its content, whatever names are open. -/
theorem complexTypeSchema_eq_of_unnamed {names : OpenNames} {type : ComplexType}
    (h : type.name? = none) : c.complexTypeSchema names type = c.contentSchema names type := by
  rw [complexTypeSchema_eq, h]
  rfl

theorem singleSchema?_eq (names : OpenNames) (element : Element) :
    c.singleSchema? names element =
      match nonempty? element.name? with
      | none => none
      | some _ =>
          (c.typeKeywords? element).map fun keywords =>
            match element.complexType? with
            | none => keywords
            | some type => keywords.update (c.complexTypeSchema names type) := by
  rw [singleSchema?]
  cases nonempty? element.name? with
  | none => rfl
  | some name =>
      show Option.map _ _ = Option.map _ _
      congr 1
      funext keywords
      split <;> rename_i h <;> simp only [h]

/-- The properties of a sequence below references: those of its own elements, then those of the
groups it refers to. -/
theorem declaredBelow_membersBelow (optional repeats : Bool) (names : OpenNames)
    (sequence : Sequence) :
    c.declaredBelow (sequence.membersBelow c.registry optional repeats names) =
      sequence.elements.filterMap (fun element =>
        c.declaredMember? ⟨element, names, optional, repeats⟩ (c.singleSchema? names element)) ++
      sequence.groups.flatMap fun ref =>
        match c.registry.enterGroup? names ref.ref? with
        | none => []
        | some (inner, content) =>
            c.declaredBelow (content.membersBelow c.registry (optional || ref.occurs.isOptional)
              (repeats || ref.occurs.isUnbounded) inner) := by
  rw [Sequence.membersBelow, declaredBelow, List.filterMap_append, List.filterMap_map,
    List.filterMap_flatMap]
  congr 1
  congr 1
  funext ref
  split <;> rename_i h <;> simp only [h]
  · rfl
  · rfl

end Conversion

/-! ## Documents -/

theorem convertWith_eq_ok_iff {options : Options} {document : Document} {output : JsonSchema} :
    convertWith options document = .ok output ↔
      ∃ schema, document.schema? = some schema ∧ schema.elements ≠ [] ∧
        output = (Conversion.ofDocument options document).schemaDocument {} schema := by
  unfold convertWith Conversion.emitWith
  cases document.schema? with
  | none => simp
  | some schema =>
      cases hroots : schema.elements with
      | nil => simp [hroots]
      | cons element rest => simp [hroots, eq_comm]

namespace Xsd.Document

variable {options : Options} {document : Document} {schema : Schema}

theorem registry_ofDocument (options : Options) (h : document.schema? = some schema) :
    (Conversion.ofDocument options document).registry = Registry.ofSchema schema := by
  simp only [Conversion.ofDocument, Registry.ofDocument, h]

theorem typeMap_ofDocument (h : options.typeMappings = []) :
    (Conversion.ofDocument options document).typeMap = TypeMap.builtin := by
  simp only [Conversion.ofDocument, h]
  rfl

end Xsd.Document

end SchemaBridge
