/-!
# Schema declarations

The declarations of a schema as far as conversion reads them. Elements, complex types, extensions,
sequences and groups nest in each other, and so do simple types and lists. A sequence keeps its
elements and its group references in two lists.

Every attribute of a declaration is optional text; a missing child is `none`. An occurrence bound is
the only attribute that is interpreted (`Occurs`).
-/

set_option autoImplicit false

namespace SchemaBridge.Xsd

/-- The occurrence bounds of an element or of a group reference. -/
structure Occurs where
  /-- The lower bound; `none` when it is missing or not a whole number. -/
  min? : Option Int := none
  /-- The upper bound as written. -/
  max? : Option String := none
deriving DecidableEq, Repr

namespace Occurs

/-- The lower bound is zero. -/
def isOptional (o : Occurs) : Bool := o.min? = some 0

/-- There is no upper bound. -/
def isUnbounded (o : Occurs) : Bool := o.max? = some "unbounded"

/-- The least number of items of an array of such elements, when the lower bound asks for one. -/
def minItems? (o : Occurs) : Option Int := o.min?.filter (0 < ·)

end Occurs

/-- A restriction of a named base type by facets. -/
structure Restriction where
  base? : Option String := none
  enumeration : List String := []
  patterns : List String := []
  minInclusive? : Option String := none
  maxInclusive? : Option String := none
  minExclusive? : Option String := none
  maxExclusive? : Option String := none
  minLength? : Option String := none
  maxLength? : Option String := none
  length? : Option String := none
deriving DecidableEq, Repr

/-- A union of named member types. -/
structure Union where
  memberTypes : List String := []
deriving DecidableEq, Repr

mutual

/-- A list of items of a named type or of an inline one. -/
structure ListType where
  itemType? : Option String := none
  simpleType? : Option SimpleType := none

/-- A simple type; of its possible contents a list goes before a restriction, and a restriction
before a union. -/
structure SimpleType where
  name? : Option String := none
  restriction? : Option Restriction := none
  union? : Option Union := none
  list? : Option ListType := none

end

/-- An attribute declaration. -/
structure Attribute where
  name? : Option String := none
  typeName? : Option String := none
  use? : Option String := none
  simpleType? : Option SimpleType := none

/-- An attribute that must be present. -/
def Attribute.isRequired (a : Attribute) : Bool := a.use? = some "required"

mutual

/-- An element declaration. -/
structure Element where
  name? : Option String := none
  typeName? : Option String := none
  occurs : Occurs := {}
  use? : Option String := none
  complexType? : Option ComplexType := none
  simpleType? : Option SimpleType := none

/-- A complex type: a plain sequence, or content that extends a base type. -/
structure ComplexType where
  name? : Option String := none
  sequence? : Option Sequence := none
  simpleContent? : Option Extension := none
  complexContent? : Option Extension := none

/-- An extension of a base type by elements and attributes. -/
structure Extension where
  base? : Option String := none
  sequence? : Option Sequence := none
  attributes : List Attribute := []

/-- A sequence: its own elements and its group references. -/
structure Sequence where
  elements : List Element := []
  groups : List Group := []

/-- A named group, or a reference to one. -/
structure Group where
  name? : Option String := none
  ref? : Option String := none
  occurs : Occurs := {}
  sequence? : Option Sequence := none

end

/-- An element that must be present. -/
def Element.isRequired (e : Element) : Bool :=
  !e.occurs.isOptional && e.use? ≠ some "optional"

/-- The top-level declarations of a schema. -/
structure Schema where
  elements : List Element := []
  complexTypes : List ComplexType := []
  simpleTypes : List SimpleType := []
  groups : List Group := []

/-- A parsed document: a schema, or anything else. -/
structure Document where
  schema? : Option Schema := none

/-- What the keys of attributes start with, in trees of values and in the properties of schemas. -/
def attributeMark : String := "@_"

/-- A text that is present and not empty. -/
def nonempty? (text? : Option String) : Option String := text?.filter (· ≠ "")

end SchemaBridge.Xsd
