import SchemaBridge.JsonSchema.Emitter

/-!
# Walks that leave open how blocks are run

What an emitter does is a walk of the declarations of a document, with some of its calls inside
blocks. Here the walk is on its own: how a block is run inside a declaration, and how a call is made
that enters no block, are parameters (`BlockCalls`). With the blocks of emitters the walk of a
document is the call on it (`walkDocument_emitter`), so what the walk does with other blocks says
something about the call.
-/

set_option autoImplicit false

namespace SchemaBridge

open Xsd

/-- How a walk runs a block inside a declaration, and how it makes a call that enters no block. -/
structure BlockCalls (m : Type → Type) where
  entering {α : Type} : DeclarationKind → Option String → (Bool → m α) → m α
  quietly {α : Type} : Emitter α → m α

namespace BlockCalls

/-- The blocks of emitters. -/
def emitter : BlockCalls Emitter where
  entering := Emitter.entering
  quietly := id

variable {m : Type → Type} [Monad m]

/-- Run a block inside the group that a reference names. -/
def enteringGroup {α : Type} (calls : BlockCalls m) (registry : Registry) (ref? : Option String)
    (block : Sequence → m (List α)) : m (List α) :=
  match nonempty? ref? with
  | none => return []
  | some name =>
      match (registry.groups.value? name).bind Group.sequence? with
      | none => return []
      | some content =>
          calls.entering .group (some name) fun
            | false => return []
            | true => block content

theorem emitter_quietly {α : Type} (call : Emitter α) : emitter.quietly call = call := rfl

theorem emitter_entering {α : Type} (kind : DeclarationKind) (name? : Option String)
    (block : Bool → Emitter α) :
    emitter.entering kind name? block = Emitter.entering kind name? block := rfl

theorem emitter_enteringGroup {α : Type} (registry : Registry) (ref? : Option String)
    (block : Sequence → Emitter (List α)) :
    emitter.enteringGroup registry ref? block = Emitter.enteringGroup registry ref? block := rfl

end BlockCalls

namespace Conversion

variable {m : Type → Type} [Monad m] (c : Conversion) (calls : BlockCalls m)

mutual

/-- Build the schema of an element. Its simple type and its type name enter no block. -/
def walkElement : Nat → Element → Bool → Bool → m (Option JsonSchema)
  | 0, _, _, _ => calls.quietly (throw .tooDeep)
  | limit + 1, element, inSequence, forceArray =>
      match nonempty? element.name? with
      | none => return none
      | some _ =>
          if forceArray || c.options.isArrayElement element inSequence then do
            let items? ← walkElement limit element false false
            return some (.array element.occurs.minItems? (items?.getD .unconstrained))
          else do
            match ← calls.quietly (c.callTypeKeywords limit element), element.complexType? with
            | none, _ => return none
            | some keywords, none => return some keywords
            | some keywords, some type =>
                return some (keywords.update (← walkComplexType limit type))

/-- Build the schema of a complex type, inside its name. -/
def walkComplexType : Nat → ComplexType → m JsonSchema
  | 0, _ => calls.quietly (throw .tooDeep)
  | limit + 1, type =>
      calls.entering .complexType type.name? fun
        | false => return .unconstrained
        | true =>
            match contentShape type with
            | .extended base extension => do
                let object ← walkObject limit extension.sequence? extension.attributes
                return .allOf [c.typeSchema base, object]
            | .text base extension => return c.textObject base extension.attributes
            | .plain sequence? => walkObject limit sequence? []

/-- Build the object schema of a sequence and attributes. -/
def walkObject : Nat → Option Sequence → List Attribute → m JsonSchema
  | 0, _, _ => calls.quietly (throw .tooDeep)
  | limit + 1, sequence?, attributes => do
      let elements ← walkSequence limit false false sequence?
      return objectOf (elements ++ c.declaredAttributes attributes)

/-- Collect the properties of a sequence below references. -/
def walkSequence : Nat → Bool → Bool → Option Sequence → m (List Declared)
  | 0, _, _, _ => calls.quietly (throw .tooDeep)
  | _ + 1, _, _, none => return []
  | limit + 1, optional, repeats, some sequence => do
      let own ← sequence.elements.mapM fun element => do
        let schema? ← walkElement limit element true (c.options.forcesArray repeats)
        return schema?.map fun schema =>
          { name := element.name?.getD "", schema, required := !optional && element.isRequired }
      let below ← sequence.groups.mapM fun ref =>
        calls.enteringGroup c.registry ref.ref? fun content =>
          walkSequence limit (optional || ref.occurs.isOptional)
            (repeats || ref.occurs.isUnbounded) (some content)
      return own.filterMap id ++ below.flatten

end

/-- Build the definition of a complex type, if it has a name. -/
def walkComplexDefinition (limit : Nat) (type : ComplexType) :
    m (Option (String × JsonSchema)) :=
  match nonempty? type.name? with
  | none => return none
  | some name => do return some (name, ← c.walkComplexType calls limit type)

/-- Build the schema document of a schema. -/
def walkSchemaDocument : Nat → Schema → m JsonSchema
  | 0, _ => calls.quietly (throw .tooDeep)
  | limit + 1, schema => do
      let roots ← schema.elements.mapM fun element => do
        let schema? ← c.walkElement calls limit element false false
        return schema?.map fun schema =>
          { name := element.name?.getD "", schema, required := element.isRequired }
      let simple ← schema.simpleTypes.mapM fun type =>
        calls.quietly (c.callSimpleDefinition limit type)
      let complex ← schema.complexTypes.mapM (c.walkComplexDefinition calls limit)
      return c.documentOf (roots.filterMap id) (simple.filterMap id ++ complex.filterMap id)

/-- Build the JSON schema of a document. -/
def walkDocument (limit : Nat) (document : Document) : m JsonSchema :=
  match document.schema? with
  | none => calls.quietly (throw (.failure .schemaMissing))
  | some schema =>
      if schema.elements.isEmpty then calls.quietly (throw (.failure .rootElementMissing))
      else c.walkSchemaDocument calls limit schema

/-! ## Walks of emitters -/

/-- The walks of one limit are the calls of that limit. -/
structure WalksCall (limit : Nat) : Prop where
  element : ∀ element inSequence forceArray,
    c.walkElement .emitter limit element inSequence forceArray =
      c.callElement limit element inSequence forceArray
  complexType : ∀ type, c.walkComplexType .emitter limit type = c.callComplexType limit type
  object : ∀ sequence? attributes,
    c.walkObject .emitter limit sequence? attributes = c.callObject limit sequence? attributes
  sequence : ∀ optional repeats sequence?,
    c.walkSequence .emitter limit optional repeats sequence? =
      c.callSequence limit optional repeats sequence?

theorem walksCall (limit : Nat) : c.WalksCall limit := by
  induction limit with
  | zero =>
      constructor
      case element => exact fun _ _ _ => rfl
      case complexType => exact fun _ => rfl
      case object => exact fun _ _ => rfl
      case sequence => exact fun _ _ _ => rfl
  | succ limit ih =>
      -- Once the inner walks are the inner calls, both sides are built in the same way.
      constructor
      case element =>
        intro element inSequence forceArray
        simp only [walkElement, BlockCalls.emitter_quietly, ih.element,
          ih.complexType]
        rfl
      case complexType =>
        intro type
        simp only [walkComplexType, BlockCalls.emitter_entering, ih.object]
        rfl
      case object =>
        intro sequence? attributes
        simp only [walkObject, ih.sequence]
        rfl
      case sequence =>
        intro optional repeats sequence?
        cases sequence? with
        | none => rfl
        | some sequence =>
            simp only [walkSequence, BlockCalls.emitter_enteringGroup, ih.element, ih.sequence]
            rfl

theorem walkSchemaDocument_emitter (limit : Nat) (schema : Schema) :
    c.walkSchemaDocument .emitter limit schema = c.callSchemaDocument limit schema := by
  cases limit with
  | zero => rfl
  | succ limit =>
      have hcalls := c.walksCall limit
      have hdefinition : c.walkComplexDefinition .emitter limit = c.callComplexDefinition limit := by
        funext type
        simp only [walkComplexDefinition, hcalls.complexType]
        rfl
      simp only [walkSchemaDocument, BlockCalls.emitter_quietly, hcalls.element, hdefinition]
      rfl

/-- **With the blocks of emitters the walk is the call.** -/
theorem walkDocument_emitter (limit : Nat) (document : Document) :
    c.walkDocument .emitter limit document = c.callDocument limit document := by
  simp only [walkDocument, BlockCalls.emitter_quietly, walkSchemaDocument_emitter]
  rfl

end Conversion

end SchemaBridge
