import SchemaBridge.Fields
import SchemaBridge.Xml.QualifiedName
import SchemaBridge.Xml.Reference

/-!
# Document types

What a document says about itself before its root element: entities, the attributes of elements, and
which elements and notations are declared. Nothing is loaded from outside, so a document type may be
partial: a declaration may then exist where it is not read, and a reference to an unknown entity is
not an error. Of several declarations of one thing the first counts.
-/

set_option autoImplicit false

namespace SchemaBridge.Xml

/-! ## Entities -/

/-- Where the text of an entity is. -/
inductive EntityKind where
  /-- In the declaration. -/
  | internal
  /-- Elsewhere; it is not loaded. -/
  | external
  /-- Elsewhere, and it is not XML. -/
  | unparsed
deriving DecidableEq

/-- A general entity, with what has been found out about it. -/
structure Entity where
  kind : EntityKind := .internal
  /-- The text, in which character references are replaced already. -/
  text : List Char := []
  /-- The text has been read as content, or has been used in an attribute value. -/
  isRead : Bool := false
  /-- The text is known to be fit for attribute values. -/
  isFitForValues : Bool := false
  /-- The length of the text with all references replaced. -/
  size : Nat := 0

/-! ## Attributes -/

/-- The type of an attribute. -/
inductive AttributeType where
  | characters
  | id
  | idReference
  | idReferences
  | entityName
  | entityNames
  | token
  | tokens
  /-- The name of one of the listed notations. -/
  | notationName (names : List String)
  /-- One of the listed tokens. -/
  | choice (tokens : List String)
deriving DecidableEq

/-- The declaration of an attribute of an element. -/
structure AttributeDeclaration where
  element : String
  name : String
  type : AttributeType
  /-- The default value, in which references to entities stand as they are. -/
  default? : Option String := none

/-! ## Tables -/

/-- What a document says about itself before its root element. -/
structure Doctype where
  entities : Fields Entity := []
  /-- Parameter entities with their text; those declared elsewhere have none. -/
  parameters : Fields (Option (List Char)) := []
  /-- The first declaration of every attribute of every element. -/
  attributes : List AttributeDeclaration := []
  elements : List String := []
  notations : List String := []
  /-- Declarations may exist that are not read. -/
  isPartial : Bool := false
  /-- The document declares that nothing outside matters. -/
  standalone : Bool := false

namespace Doctype

/-- A reference to an unknown entity is tolerated. -/
def toleratesUnknown (d : Doctype) : Bool := d.isPartial && !d.standalone

/-- Declare an entity. -/
def declareEntity (d : Doctype) (name : String) (entity : Entity) : Doctype :=
  if (d.entities.value? name).isSome then d
  else { d with entities := d.entities ++ [(name, entity)] }

/-- Declare a parameter entity. -/
def declareParameter (d : Doctype) (name : String) (text? : Option (List Char)) : Doctype :=
  if (d.parameters.value? name).isSome then d
  else { d with parameters := d.parameters ++ [(name, text?)] }

/-- The declaration of an attribute of an element, both with the names that markup writes. -/
def attribute? (d : Doctype) (element name : String) : Option AttributeDeclaration :=
  d.attributes.find? fun declared => declared.element = element && declared.name = name

/-- Values of the attribute are tokens with single blanks between them. -/
def isTokenized (d : Doctype) (element name : String) : Bool :=
  match d.attribute? element name with
  | some declared => declared.type != .characters
  | none => false

/-- Values of the attribute identify elements. -/
def isIdentifier (d : Doctype) (element : String) (name : QualifiedName) : Bool :=
  match d.attributes.find? fun declared =>
      declared.element = element && QualifiedName.cut declared.name = name with
  | some declared => declared.type = .id
  | none => false

/-- The names and values of the attributes of an element that have default values, in the order of
their declarations. -/
def defaults (d : Doctype) (element : QualifiedName) : List (QualifiedName × String) :=
  (d.attributes.filter fun declared => QualifiedName.cut declared.element = element).filterMap
    fun declared => declared.default?.map fun value => (QualifiedName.cut declared.name, value)

end Doctype

end SchemaBridge.Xml
