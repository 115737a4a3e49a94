import SchemaBridge.Xsd.Builtin

/-!
# Type tables

A type table gives the JSON schema keywords of the type names that conversion treats as primitive.
It starts from the built-in types under their qualified names; callers replace entries or add new
ones. Every other type name is a reference to a definition.
-/

set_option autoImplicit false

namespace SchemaBridge.Xsd

/-- Keywords of primitive types by type name. -/
abbrev TypeMap : Type := Fields (Fields Json)

namespace TypeMap

/-- The table of the built-in types. -/
def builtin : TypeMap := Builtin.all.map fun b => (b.qualifiedName, b.mapping)

/-- The built-in table with replaced and additional entries. -/
def extended (extra : Fields (Fields Json)) : TypeMap := Fields.update builtin extra

/-- The name stands for a primitive type. -/
def isPrimitive (table : TypeMap) (typeName : String) : Bool := (table.value? typeName).isSome

/-- The keywords of a primitive type; none for any other name. -/
def keywords (table : TypeMap) (typeName : String) : Fields Json := (table.value? typeName).getD []

end TypeMap

end SchemaBridge.Xsd
