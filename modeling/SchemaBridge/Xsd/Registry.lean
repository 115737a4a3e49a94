import SchemaBridge.Fields
import SchemaBridge.Xsd.Model

/-!
# Registries of named declarations

The named complex types, simple types and groups of a schema, each kind in a table of its own. A
declaration without a name, or with an empty one, is in no table. When a name is declared twice the
later declaration wins, at the place of the first.
-/

set_option autoImplicit false

namespace SchemaBridge.Xsd

/-- The table of the declarations that have a name. -/
def indexByName {α : Type} (name? : α → Option String) (declarations : List α) : Fields α :=
  Fields.ofEntries (declarations.filterMap fun d => (nonempty? (name? d)).map fun name => (name, d))

/-- The named declarations of a schema. -/
structure Registry where
  complexTypes : Fields ComplexType := []
  simpleTypes : Fields SimpleType := []
  groups : Fields Group := []

namespace Registry

/-- The registry of a schema. -/
def ofSchema (schema : Schema) : Registry where
  complexTypes := indexByName ComplexType.name? schema.complexTypes
  simpleTypes := indexByName SimpleType.name? schema.simpleTypes
  groups := indexByName Group.name? schema.groups

/-- The registry of a document; a document without a schema has an empty one. -/
def ofDocument (document : Document) : Registry :=
  match document.schema? with
  | none => {}
  | some schema => ofSchema schema

/-- The complex type of a name. -/
def complexType? (registry : Registry) (name? : Option String) : Option ComplexType :=
  (nonempty? name?).bind registry.complexTypes.value?

/-- The simple type of a name. -/
def simpleType? (registry : Registry) (name? : Option String) : Option SimpleType :=
  (nonempty? name?).bind registry.simpleTypes.value?

/-- The group of a name. -/
def group? (registry : Registry) (name? : Option String) : Option Group :=
  (nonempty? name?).bind registry.groups.value?

end Registry

end SchemaBridge.Xsd
