import SchemaBridge.JsonSchema.Emitter
import SchemaBridge.Xsd.Nesting

/-!
# Conversions in a session

A conversion can be asked for single schemas, and its open names can be changed between requests. A
request is a call of an emitter (`Conversion.call`) that starts with the names open in the session,
and the session goes on with the names that the call leaves.
-/

set_option autoImplicit false

namespace SchemaBridge

open Xsd

/-- A request for one schema. -/
inductive SchemaRequest where
  /-- The schema of the whole document. -/
  | document
  | element (element : Element) (inSequence forceArray : Bool)
  | complexType (type : ComplexType)
  | simpleType (type : SimpleType)
  | list (list : ListType)
  | restriction (restriction : Restriction)
  | attribute (declaration : Attribute)
  | typeName (name : String)
  | object (sequence? : Option Sequence) (attributes : List Attribute)

/-- The nesting of the declaration that a request is about. -/
def SchemaRequest.nesting (source : Document) : SchemaRequest → Nat
  | .document => source.nesting
  | .element declaration _ _ => declaration.nesting
  | .complexType declaration => declaration.nesting
  | .simpleType declaration => declaration.nesting
  | .list declaration => declaration.nesting
  | .object sequence? _ => Sequence.optionalNesting sequence?
  | .restriction _ | .attribute _ | .typeName _ => 0

/-- Build the schema that answers a request, if the declaration has one. -/
def Conversion.call (c : Conversion) (limit : Nat) (document : Document) :
    SchemaRequest → Emitter (Option JsonSchema)
  | .document => some <$> c.callDocument limit document
  | .element element inSequence forceArray => c.callElement limit element inSequence forceArray
  | .complexType type => some <$> c.callComplexType limit type
  | .simpleType type => c.callSimpleType limit type
  | .list list => c.callList limit list
  | .restriction restriction => return c.restrictionSchema? restriction
  | .attribute declaration => return c.attributeSchema? declaration
  | .typeName name => return some (c.typeSchema name)
  | .object sequence? attributes => some <$> c.callObject limit sequence? attributes

/-- A step of a conversion session. -/
inductive ConversionStep where
  | names (step : OpenNamesStep)
  | request (request : SchemaRequest)

/-- The answer to a step of a conversion session. -/
inductive ConversionAnswer where
  | names (answer : OpenNamesAnswer)
  | schema (schema? : Option JsonSchema)

/-- What a session answers when a call gives a result. A call that is too deep would have no schema;
the calls of a session never are. -/
def ConversionAnswer.ofResult : Except Raised (Option JsonSchema) → Except Failure ConversionAnswer
  | .ok schema? => .ok (.schema schema?)
  | .error (.failure cause) => .error cause
  | .error .tooDeep => .ok (.schema none)

/-- Run one step of a conversion session. A request is called with a limit that it does not
reach. -/
def Conversion.step (c : Conversion) (document : Document) (session : Session) :
    ConversionStep → Session × Except Failure ConversionAnswer
  | .names step =>
      let (next, answer) := session.step step
      (next, .ok (.names answer))
  | .request request =>
      let limit := c.registry.callDepth (request.nesting document)
      let (result, names) := (c.call limit document request).outcome session.names
      ({ session with names }, ConversionAnswer.ofResult result)

end SchemaBridge
