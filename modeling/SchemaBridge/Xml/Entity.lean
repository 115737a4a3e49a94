import SchemaBridge.Xml.Reading

/-!
# Entities in values

Inside the value of an attribute an entity stands for its text: the text is declared in the
document, holds no opening bracket, and refers only to entities of the same kind. An entity whose
text is known to be fit is not looked at again.

A reference opens the text of its entity inside the text that refers to it. `greatestTexts` bounds
how many texts are open at once; entities that refer to each other in a circle run into the bound.
The argument `room` of the functions here is the number of texts that may still be opened.
-/

set_option autoImplicit false

namespace SchemaBridge.Xml

/-- The greatest number of texts that may be open at once, the document among them. -/
def greatestTexts : Nat := 20

/-- The number of texts that may be opened inside the document. -/
def rootRoom : Nat := greatestTexts - 1

/-- The entity of a name that stands in a value, if it is known. Entities whose text is elsewhere
may not stand there. -/
def Read.entityInValue (name : String) : Read (Option Entity) := do
  match (← Read.doctype).entities.value? name with
  | none =>
      Read.meetUnknown
      return none
  | some entity =>
      Read.require (entity.kind = .internal)
      return some entity

/-- Where a value stands: in the document, or among the declarations. -/
inductive ValuePlace where
  | document
  | declaration
deriving DecidableEq

namespace Entity

/-- Nothing remains to be found out before the entity may stand in a value. What was found among
declarations says nothing about length, so the document looks once more. -/
def isSettled (entity : Entity) : ValuePlace → Bool
  | .document => entity.isFitForValues && entity.isRead
  | .declaration => entity.isFitForValues

/-- The entity after its text has been found fit for values. Only the document makes use of the
text. -/
def settle (entity : Entity) (size : Nat) : ValuePlace → Entity
  | .document => { entity with isFitForValues := true, isRead := true, size }
  | .declaration => { entity with isFitForValues := true }

end Entity

/-- Make sure that the text of an entity is fit for values. -/
def settleEntity (place : ValuePlace) : Nat → String → Entity → Read Unit
  | 0, _, _ => Read.refuse
  | room + 1, name, entity => do
      Read.require (!entity.text.contains '<')
      let pieces ← Read.ofOption (splitPieces? entity.text)
      let size ← pieces.foldlM
        (fun size piece => do
          match piece with
          | .char _ => return size
          | .entity inner =>
              if (predefined? inner).isSome then return size
              match ← Read.entityInValue inner with
              | none => return size
              | some entity =>
                  if !entity.isSettled place then settleEntity place room inner entity
                  let innerSize :=
                    (((← Read.doctype).entities.value? inner).map Entity.size).getD 0
                  return size + innerSize + Reading.referenceCost)
        (textSize entity.text)
      Read.modifyDoctype fun d =>
        { d with entities := d.entities.put name (entity.settle size place) }

/-- The text of an entity with all references replaced, down to a depth. -/
def entityText (entities : Fields Entity) : Nat → String → List Char
  | 0, _ => []
  | depth + 1, name =>
      match predefined? name, entities.value? name with
      | some c, _ => [c]
      | none, none => []
      | none, some entity =>
          ((splitPieces? entity.text).getD []).flatMap fun piece =>
            match piece with
            | .char c => [c]
            | .entity inner => entityText entities depth inner

end SchemaBridge.Xml
