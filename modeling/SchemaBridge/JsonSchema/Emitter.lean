import SchemaBridge.JsonSchema.Emission

/-!
# Emitters

An emitter builds schemas with one set of open names for all its calls. A declaration that it enters
is put on top of the open names, and it is taken off again when the block inside ends, whether that
returns or raises (`Emitter.entering`).

The calls go down as deep as the declarations lie in each other and refer to each other. There is a
limit on the depth, and the call that exceeds it raises, in whatever place it stands.
-/

set_option autoImplicit false

namespace SchemaBridge

open Xsd

/-- Why a call of an emitter raises. -/
inductive Raised where
  /-- The request has no result. -/
  | failure (cause : Failure)
  /-- The calls are nested deeper than the limit. -/
  | tooDeep

/-- A call of an emitter: it reads and changes the open names, and it returns or raises. What it did
to the open names before it raised is not undone by raising. -/
abbrev Emitter (α : Type) : Type := ExceptT Raised (StateM OpenNames) α

namespace Emitter

/-- What a call gives when some names are open, and the names that are open afterwards. -/
def outcome {α : Type} (call : Emitter α) (names : OpenNames) : Except Raised α × OpenNames :=
  StateT.run (ExceptT.run call) names

/-- Run a block inside a declaration. The block is told whether the declaration is entered: it is
not when its name is open already. A name that was opened is closed when the block ends. -/
def entering {α : Type} (kind : DeclarationKind) (name? : Option String)
    (block : Bool → Emitter α) : Emitter α := do
  match name? with
  | none => block true
  | some name =>
      if (← get).isOpen kind name then block false
      else
        modify fun names => names.push kind name
        try block true
        finally modify fun names => names.pop kind

/-- Run a block inside the group that a reference names. A reference to no registered group, to a
group without a sequence or to an open group contributes nothing. -/
def enteringGroup {α : Type} (registry : Registry) (ref? : Option String)
    (block : Sequence → Emitter (List α)) : Emitter (List α) :=
  match nonempty? ref? with
  | none => return []
  | some name =>
      match (registry.groups.value? name).bind Group.sequence? with
      | none => return []
      | some content =>
          entering .group (some name) fun
            | false => return []
            | true => block content

end Emitter

namespace Conversion

variable (c : Conversion)

mutual

/-- Build the schema of a simple type. -/
def callSimpleType : Nat → SimpleType → Emitter (Option JsonSchema)
  | 0, _ => throw .tooDeep
  | limit + 1, type =>
      match type.list? with
      | some list => callList limit list
      | none => return c.simpleTypeSchema? type

/-- Build the schema of a list. -/
def callList : Nat → ListType → Emitter (Option JsonSchema)
  | 0, _ => throw .tooDeep
  | limit + 1, list =>
      match nonempty? list.itemType?, list.simpleType? with
      | none, some type => do
          let items? ← callSimpleType limit type
          return items?.map fun items => .array none items
      | _, _ => return c.listSchema? list

end

/-- Build the keywords that an element takes from its simple type or its type name. -/
def callTypeKeywords (limit : Nat) (element : Element) : Emitter (Option JsonSchema) :=
  match element.simpleType? with
  | none => return c.typeKeywords? element
  | some type => do
      let schema? ← c.callSimpleType limit type
      return match schema? with
        | some schema => some schema
        | none => if element.complexType?.isSome then some .unconstrained else none

mutual

/-- Build the schema of an element. The items of an array are a call of their own. -/
def callElement : Nat → Element → Bool → Bool → Emitter (Option JsonSchema)
  | 0, _, _, _ => throw .tooDeep
  | limit + 1, element, inSequence, forceArray =>
      match nonempty? element.name? with
      | none => return none
      | some _ =>
          if forceArray || c.options.isArrayElement element inSequence then do
            let items? ← callElement limit element false false
            return some (.array element.occurs.minItems? (items?.getD .unconstrained))
          else do
            match ← c.callTypeKeywords limit element, element.complexType? with
            | none, _ => return none
            | some keywords, none => return some keywords
            | some keywords, some type =>
                return some (keywords.update (← callComplexType limit type))

/-- Build the schema of a complex type, inside its name. -/
def callComplexType : Nat → ComplexType → Emitter JsonSchema
  | 0, _ => throw .tooDeep
  | limit + 1, type =>
      Emitter.entering .complexType type.name? fun
        | false => return .unconstrained
        | true =>
            match contentShape type with
            | .extended base extension => do
                let object ← callObject limit extension.sequence? extension.attributes
                return .allOf [c.typeSchema base, object]
            | .text base extension => return c.textObject base extension.attributes
            | .plain sequence? => callObject limit sequence? []

/-- Build the object schema of a sequence and attributes. -/
def callObject : Nat → Option Sequence → List Attribute → Emitter JsonSchema
  | 0, _, _ => throw .tooDeep
  | limit + 1, sequence?, attributes => do
      let elements ← callSequence limit false false sequence?
      return objectOf (elements ++ c.declaredAttributes attributes)

/-- Collect the properties of a sequence below references: those of its own elements, then those of
the groups it refers to, each inside the name of the group. -/
def callSequence : Nat → Bool → Bool → Option Sequence → Emitter (List Declared)
  | 0, _, _, _ => throw .tooDeep
  | _ + 1, _, _, none => return []
  | limit + 1, optional, repeats, some sequence => do
      let own ← sequence.elements.mapM fun element => do
        let schema? ← callElement limit element true (c.options.forcesArray repeats)
        return schema?.map fun schema =>
          { name := element.name?.getD "", schema, required := !optional && element.isRequired }
      let below ← sequence.groups.mapM fun ref =>
        Emitter.enteringGroup c.registry ref.ref? fun content =>
          callSequence limit (optional || ref.occurs.isOptional)
            (repeats || ref.occurs.isUnbounded) (some content)
      return own.filterMap id ++ below.flatten

end

/-- The JSON schema of top-level properties and definitions. -/
def documentOf (roots : List Declared) (definitions : List (String × JsonSchema)) : JsonSchema :=
  .node [
    ("$schema", .text c.options.dialect.schemaUri),
    ("type", .text "object"),
    ("properties", .named (declaredProperties [] roots)),
    ("required", .names (declaredRequired [] roots)),
    (c.options.dialect.definitionsKey, .named (Fields.ofEntries definitions))]

/-- Build the definition of a simple type, if it has a name and a schema. -/
def callSimpleDefinition (limit : Nat) (type : SimpleType) :
    Emitter (Option (String × JsonSchema)) :=
  match nonempty? type.name? with
  | none => return none
  | some name => do
      let definition? ← c.callSimpleType limit type
      return definition?.map fun definition => (name, definition)

/-- Build the definition of a complex type, if it has a name. -/
def callComplexDefinition (limit : Nat) (type : ComplexType) :
    Emitter (Option (String × JsonSchema)) :=
  match nonempty? type.name? with
  | none => return none
  | some name => do return some (name, ← c.callComplexType limit type)

/-- Build the schema document of a schema: its top-level elements, then its named simple types, then
its named complex types. -/
def callSchemaDocument : Nat → Schema → Emitter JsonSchema
  | 0, _ => throw .tooDeep
  | limit + 1, schema => do
      let roots ← schema.elements.mapM fun element => do
        let schema? ← c.callElement limit element false false
        return schema?.map fun schema =>
          { name := element.name?.getD "", schema, required := element.isRequired }
      let simple ← schema.simpleTypes.mapM (c.callSimpleDefinition limit)
      let complex ← schema.complexTypes.mapM (c.callComplexDefinition limit)
      return c.documentOf (roots.filterMap id) (simple.filterMap id ++ complex.filterMap id)

/-- Build the JSON schema of a document. -/
def callDocument (limit : Nat) (document : Document) : Emitter JsonSchema :=
  match document.schema? with
  | none => throw (.failure .schemaMissing)
  | some schema =>
      if schema.elements.isEmpty then throw (.failure .rootElementMissing)
      else c.callSchemaDocument limit schema

end Conversion

end SchemaBridge
