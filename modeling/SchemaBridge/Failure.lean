import SchemaBridge.Json.Literal

/-!
# Failures

Everything that can go wrong between an input and a result, by cause. The wording of the causes that
are explained to the caller is in `Failure.message?`; the others carry no text.
-/

set_option autoImplicit false

namespace SchemaBridge

/-- Why a request has no result. -/
inductive Failure where
  /-- The document's root is not a schema. -/
  | schemaMissing
  /-- The schema declares no top-level element. -/
  | rootElementMissing
  /-- The text is not a well-formed document. -/
  | malformedXml
  /-- A whole number has more digits than are read. -/
  | integerTooLong
  /-- A name starts a namespace in braces and does not end it. -/
  | openNamespace
  /-- A conversion option has a name that no option has. -/
  | unknownOptions (names : List String)
  /-- A list of names was expected. -/
  | namesExpected
  /-- A reading option has a name that no option has. -/
  | unknownReadingOption
  /-- A value names no schema dialect. -/
  | invalidDialect (value : Json)
  /-- A name is not that of a built-in type. -/
  | invalidBuiltin (name : String)
  /-- A name is not that of a kind of declarations. -/
  | invalidDeclarationKind (name : String)
  /-- Only collectors of list paths resolve list types. -/
  | noListTypes
  /-- A printed text ends a style that is not set. -/
  | unopenedTag
deriving Inhabited

namespace Failure

/-- The wording of a failure. -/
def message? : Failure → Option String
  | .schemaMissing => some "Invalid XSD: root schema element not found"
  | .rootElementMissing => some "No root element to process"
  | .unknownOptions names =>
      some ("Unknown conversion options: " ++ (Json.ofNames names).literal)
  | .invalidDialect value => some (value.literal ++ " is not a valid SchemaDialect")
  | .invalidBuiltin name => some (Json.quoted name ++ " is not a valid XsdBuiltinType")
  | .invalidDeclarationKind name => some (Json.quoted name ++ " is not a valid DeclarationKind")
  | .malformedXml | .integerTooLong | .openNamespace | .namesExpected | .unknownReadingOption
  | .noListTypes | .unopenedTag => none

end Failure

end SchemaBridge
