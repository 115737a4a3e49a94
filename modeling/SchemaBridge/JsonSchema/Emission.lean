import SchemaBridge.JsonSchema.SimpleType
import SchemaBridge.Xsd.Content

/-!
# Schemas of elements, complex types and documents

An object schema is built from a list of declared properties (`Declared`): the members of a sequence
that have a schema, then the attributes. A property that is declared twice keeps its first place and
takes its last schema, and it is required as soon as one declaration requires it
(`objectOf`).

Named complex types are referred to, not followed, so a document's definitions are independent of
each other. Within one type only group references lead away from the text of the declaration; the
names open above a member say which of them are being replaced.
-/

set_option autoImplicit false

namespace SchemaBridge

open Xsd

/-- A property of an object as one declaration describes it. -/
structure Declared where
  name : String
  schema : JsonSchema
  required : Bool

/-- The names without repetitions, in order of first occurrence, after the names of a first list. -/
def addNames (known : List String) (names : List String) : List String :=
  names.foldl (fun list name => if list.contains name then list else list ++ [name]) known

/-- The properties of an object, each in the place of its first declaration and with the schema of
its last one, after a table of earlier ones. -/
def declaredProperties (earlier : Fields JsonSchema) (declared : List Declared) :
    Fields JsonSchema :=
  Fields.update earlier (declared.map fun d => (d.name, d.schema))

/-- The names that some declaration requires, in order, after a list of earlier ones. -/
def declaredRequired (earlier : List String) (declared : List Declared) : List String :=
  addNames earlier ((declared.filter Declared.required).map Declared.name)

/-- The object schema of declared properties. -/
def objectOf (declared : List Declared) : JsonSchema :=
  .object (declaredProperties [] declared) (declaredRequired [] declared)

/-- The ways in which a complex type describes content. -/
inductive ContentShape where
  /-- Elements and attributes added to the content of a base type. -/
  | extended (base : String) (extension : Extension)
  /-- Attributes added to the text of a base type. -/
  | text (base : String) (extension : Extension)
  /-- A plain sequence, or nothing. -/
  | plain (sequence? : Option Sequence)

/-- The way in which a type describes its content. An extension counts when it names a base; complex
content goes before simple content, and simple content before a plain sequence. -/
def contentShape (type : ComplexType) : ContentShape :=
  match type.complexContent?.bind fun e => (nonempty? e.base?).map fun base => (base, e) with
  | some (base, extension) => .extended base extension
  | none =>
      match type.simpleContent?.bind fun e => (nonempty? e.base?).map fun base => (base, e) with
      | some (base, extension) => .text base extension
      | none => .plain type.sequence?

/-- The sequence to which a shape adds its members. -/
def ContentShape.sequence? : ContentShape → Option Sequence
  | .extended _ extension => extension.sequence?
  | .text _ _ => none
  | .plain sequence? => sequence?

theorem sizeOf_extension_sequence?_lt (e : Extension) : sizeOf e.sequence? < sizeOf e := by
  cases e
  simp
  omega

/-- The sequence of a shape is smaller than the type. -/
theorem sizeOf_contentShape_sequence?_lt (type : ComplexType) :
    sizeOf (contentShape type).sequence? < sizeOf type := by
  obtain ⟨name?, sequence?, simpleContent?, complexContent?⟩ := type
  have hpos : 0 < sizeOf sequence? := by
    cases sequence? <;> simp only [Option.none.sizeOf_spec, Option.some.sizeOf_spec] <;> omega
  unfold contentShape
  split
  · rename_i base extension h
    obtain ⟨e, he, hb⟩ := Option.bind_eq_some_iff.1 h
    obtain ⟨b, -, hpair⟩ := Option.map_eq_some_iff.1 hb
    cases hpair
    simp only at he
    subst he
    have := sizeOf_extension_sequence?_lt extension
    simp [ContentShape.sequence?]
    omega
  · split
    · simp [ContentShape.sequence?]
      omega
    · simp [ContentShape.sequence?]
      omega

namespace Options

/-- The element stands directly in a sequence, has no upper bound, and is taken as an array: either
all such elements are, or its name is listed. -/
def isArrayElement (options : Options) (element : Element) (inSequence : Bool) : Bool :=
  inSequence && element.occurs.isUnbounded &&
    (options.treatUnboundedAsArray || (element.name?.map options.isArrayName).getD false)

/-- A repeating group above an element makes an array of it. -/
def forcesArray (options : Options) (repeats : Bool) : Bool :=
  repeats && options.treatUnboundedAsArray

/-- A member of a sequence is taken as an array. -/
def isArrayMember (options : Options) (m : Member) : Bool :=
  options.forcesArray m.repeats || options.isArrayElement m.element true

end Options

namespace Conversion

/-- The schema of an element from that of a single occurrence. An element without a name has none;
an array of items without a schema accepts any items. -/
def presented (element : Element) (isArray : Bool) (single? : Option JsonSchema) :
    Option JsonSchema :=
  match nonempty? element.name? with
  | none => none
  | some _ =>
      if isArray then
        some (.array element.occurs.minItems? (single?.getD .unconstrained))
      else single?

/-- The keywords that an element takes from its simple type or its type name, before those of an
inline complex type; none when the simple type has no schema and there is no complex type. -/
def typeKeywords? (c : Conversion) (element : Element) : Option JsonSchema :=
  match element.simpleType? with
  | some type =>
      match c.simpleTypeSchema? type with
      | some schema => some schema
      | none => if element.complexType?.isSome then some .unconstrained else none
  | none =>
      match nonempty? element.typeName? with
      | none => some .unconstrained
      | some typeName =>
          some ((c.noteOrigin typeName .unconstrained).update (c.bareTypeSchema typeName))

/-- The attributes of a declaration that have a name and a schema. -/
def declaredAttributes (c : Conversion) (attributes : List Attribute) : List Declared :=
  attributes.filterMap fun a => do
    let name ← nonempty? a.name?
    let schema ← c.attributeSchema? a
    return { name := attributeMark ++ name, schema, required := a.isRequired }

/-- The object schema of the text of a base type with attributes. -/
def textObject (c : Conversion) (base : String) (attributes : List Attribute) : JsonSchema :=
  let declared := c.declaredAttributes attributes
  .object (declaredProperties [("#text", c.typeSchema base)] declared)
    (declaredRequired ["#text"] declared)

/-- One member as a declared property, from the schema of a single occurrence. -/
def declaredMember? (c : Conversion) (m : Member) (single? : Option JsonSchema) :
    Option Declared :=
  (presented m.element (c.options.isArrayMember m) single?).map fun schema =>
    { name := m.element.name?.getD "", schema, required := !m.optional && m.element.isRequired }

mutual

/-- The schema of a single occurrence of an element. -/
def singleSchema? (c : Conversion) (names : OpenNames) (element : Element) : Option JsonSchema :=
  match nonempty? element.name? with
  | none => none
  | some _ =>
      (c.typeKeywords? element).map fun keywords =>
        match _complex : element.complexType? with
        | none => keywords
        | some type => keywords.update (c.complexTypeSchema names type)
termination_by (c.registry.unopened names, sizeOf element)
decreasing_by
  apply Prod.Lex.right
  cases element
  simp only at _complex
  subst _complex
  simp
  omega

/-- The schema of a complex type; the empty schema when its name is open already. -/
def complexTypeSchema (c : Conversion) (names : OpenNames) (type : ComplexType) : JsonSchema :=
  match _entered : names.enter .complexType type.name? with
  | none => .unconstrained
  | some inner =>
      let elements := c.declaredElements inner (contentShape type).sequence?
      match contentShape type with
      | .extended base extension =>
          .allOf [c.typeSchema base,
            objectOf (elements ++ c.declaredAttributes extension.attributes)]
      | .text base extension => c.textObject base extension.attributes
      | .plain _ => objectOf elements
termination_by (c.registry.unopened names, sizeOf type)
decreasing_by
  have hle := Registry.unopened_le_of_enter c.registry _entered
  have hlt := sizeOf_contentShape_sequence?_lt type
  rcases Nat.lt_or_eq_of_le hle with h | h
  · exact Prod.Lex.left _ _ h
  · rw [h]
    exact Prod.Lex.right _ hlt

/-- The members of a sequence that have a schema, as declared properties. -/
def declaredElements (c : Conversion) (names : OpenNames) (sequence? : Option Sequence) :
    List Declared :=
  (Sequence.optionalMembers c.registry names sequence?).attach.filterMap fun m =>
    c.declaredMember? m.1 (c.singleSchema? m.1.names m.1.element)
termination_by (c.registry.unopened names, sizeOf sequence?)
decreasing_by exact Sequence.optionalMember_lt m.2

end

/-- The schema of an element in a given place. -/
def elementSchema? (c : Conversion) (names : OpenNames) (element : Element)
    (inSequence forceArray : Bool) : Option JsonSchema :=
  presented element (forceArray || c.options.isArrayElement element inSequence)
    (c.singleSchema? names element)

/-- The object schema of a sequence and attributes. -/
def objectSchema (c : Conversion) (names : OpenNames) (sequence? : Option Sequence)
    (attributes : List Attribute) : JsonSchema :=
  objectOf (c.declaredElements names sequence? ++ c.declaredAttributes attributes)

/-! ## Documents -/

/-- The top-level elements that have a schema, as declared properties. -/
def declaredRoots (c : Conversion) (names : OpenNames) (schema : Schema) : List Declared :=
  schema.elements.filterMap fun element =>
    (c.elementSchema? names element false false).map fun s =>
      { name := element.name?.getD "", schema := s, required := element.isRequired }

/-- The definitions: the named simple types that have a schema, then the named complex types. -/
def definitions (c : Conversion) (names : OpenNames) (schema : Schema) : Fields JsonSchema :=
  let simple := schema.simpleTypes.filterMap fun type => do
    let name ← nonempty? type.name?
    let definition ← c.simpleTypeSchema? type
    return (name, definition)
  let complex := schema.complexTypes.filterMap fun type =>
    (nonempty? type.name?).map fun name => (name, c.complexTypeSchema names type)
  Fields.ofEntries (simple ++ complex)

/-- The JSON schema of a schema with top-level elements. -/
def schemaDocument (c : Conversion) (names : OpenNames) (schema : Schema) : JsonSchema :=
  let roots := c.declaredRoots names schema
  .node [
    ("$schema", .text c.options.dialect.schemaUri),
    ("type", .text "object"),
    ("properties", .named (declaredProperties [] roots)),
    ("required", .names (declaredRequired [] roots)),
    (c.options.dialect.definitionsKey, .named (c.definitions names schema))]

/-- The JSON schema of a document, with names that are open from the start. -/
def emitWith (c : Conversion) (names : OpenNames) (document : Document) :
    Except Failure JsonSchema :=
  match document.schema? with
  | none => .error .schemaMissing
  | some schema =>
      if schema.elements.isEmpty then .error .rootElementMissing
      else .ok (c.schemaDocument names schema)

end Conversion

/-- Convert a document to a JSON schema under given options. -/
def convertWith (options : Options) (document : Document) : Except Failure JsonSchema :=
  (Conversion.ofDocument options document).emitWith {} document

/-- Convert a document to a JSON schema. The options are checked before the document. -/
def convert (document : Document) (options? : Option (Fields Json)) :
    Except Failure JsonSchema := do
  convertWith (← Options.resolve options?) document

end SchemaBridge
