import SchemaBridge.Xsd.Content

/-!
# Nesting of declarations

The nesting of a declaration counts the declarations that lie in each other along its deepest
branch. References do not count: what a reference leads to is nested in another declaration. Along a
branch calls go down in the declarations, and at a reference they open a name, so the nesting and
the registered names say how deep calls can go (`Registry.callDepth`, `Registry.walkDepth`).
-/

set_option autoImplicit false

namespace SchemaBridge.Xsd

mutual

/-- The nesting of a simple type. -/
def SimpleType.nesting : SimpleType → Nat
  | ⟨_, _, _, list?⟩ => ListType.optionalNesting list? + 1

/-- The nesting of a list. -/
def ListType.nesting : ListType → Nat
  | ⟨_, simpleType?⟩ => SimpleType.optionalNesting simpleType? + 1

/-- The nesting of a simple type that may be missing. -/
def SimpleType.optionalNesting : Option SimpleType → Nat
  | none => 0
  | some type => type.nesting

/-- The nesting of a list that may be missing. -/
def ListType.optionalNesting : Option ListType → Nat
  | none => 0
  | some list => list.nesting

end

mutual

/-- The nesting of an element. -/
def Element.nesting : Element → Nat
  | ⟨_, _, _, _, complexType?, simpleType?⟩ =>
      max (ComplexType.optionalNesting complexType?) (SimpleType.optionalNesting simpleType?) + 1

/-- The nesting of a complex type. -/
def ComplexType.nesting : ComplexType → Nat
  | ⟨_, sequence?, simpleContent?, complexContent?⟩ =>
      max (Sequence.optionalNesting sequence?)
        (max (Extension.optionalNesting simpleContent?)
          (Extension.optionalNesting complexContent?)) + 1

/-- The nesting of an extension. -/
def Extension.nesting : Extension → Nat
  | ⟨_, sequence?, _⟩ => Sequence.optionalNesting sequence? + 1

/-- The nesting of a sequence. -/
def Sequence.nesting : Sequence → Nat
  | ⟨elements, groups⟩ => max (elementsNesting elements) (groupsNesting groups) + 1

/-- The nesting of a complex type that may be missing. -/
def ComplexType.optionalNesting : Option ComplexType → Nat
  | none => 0
  | some type => type.nesting

/-- The nesting of an extension that may be missing. -/
def Extension.optionalNesting : Option Extension → Nat
  | none => 0
  | some extension => extension.nesting

/-- The nesting of a sequence that may be missing. -/
def Sequence.optionalNesting : Option Sequence → Nat
  | none => 0
  | some sequence => sequence.nesting

/-- The nesting of a group. -/
def Group.nesting : Group → Nat
  | ⟨_, _, _, sequence?⟩ => Sequence.optionalNesting sequence? + 1

/-- The greatest nesting among elements. -/
def elementsNesting : List Element → Nat
  | [] => 0
  | element :: rest => max element.nesting (elementsNesting rest)

/-- The greatest nesting among groups. -/
def groupsNesting : List Group → Nat
  | [] => 0
  | group :: rest => max group.nesting (groupsNesting rest)

end

/-- The nesting of a schema, which is itself a declaration around all others. -/
def Schema.nesting (schema : Schema) : Nat :=
  max (max (elementsNesting schema.elements) (groupsNesting schema.groups))
    (max ((schema.complexTypes.map ComplexType.nesting).foldr max 0)
      ((schema.simpleTypes.map SimpleType.nesting).foldr max 0)) + 1

/-- The nesting of a document; a document without a schema counts as an empty schema. -/
def Document.nesting (document : Document) : Nat :=
  (document.schema?.getD {}).nesting

/-- The number of registered names of all kinds. -/
def Registry.nameCount (registry : Registry) : Nat :=
  registry.complexTypes.length + registry.simpleTypes.length + registry.groups.length

/-- The greatest nesting of the registered groups. -/
def Registry.groupNesting (registry : Registry) : Nat :=
  groupsNesting (registry.groups.map Prod.snd)

/-- A depth of calls that suffices for building the schema of a declaration of some nesting: two
calls for each declaration on the way, and once more the deepest group for each name that can be
opened. -/
def Registry.callDepth (registry : Registry) (nesting : Nat) : Nat :=
  2 * (nesting + registry.nameCount * registry.groupNesting) + 2

/-- The greatest nesting of the registered groups and complex types. -/
def Registry.contentNesting (registry : Registry) : Nat :=
  max registry.groupNesting ((registry.complexTypes.map fun entry => entry.2.nesting).foldr max 0)

/-- A depth of calls that suffices for collecting paths from a declaration of some nesting, where
registered types are followed too: one call for each declaration on the way, and once more the
deepest group or type for each name that can be opened. -/
def Registry.walkDepth (registry : Registry) (nesting : Nat) : Nat :=
  nesting + registry.nameCount * (registry.contentNesting + 1) + 2

end SchemaBridge.Xsd
