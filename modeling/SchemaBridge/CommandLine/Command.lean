import SchemaBridge.CommandLine.Arguments
import SchemaBridge.Options

/-!
# Commands

The three commands: convert a schema, list the paths that are derived from a schema, and read an
instance document along a schema. A command knows its options and takes exactly one positional
path. Asking for verbose output is allowed everywhere and changes no result.
-/

set_option autoImplicit false

namespace SchemaBridge.CommandLine

/-- How paths are listed. -/
inductive PathsFormat where
  | text
  | json
deriving DecidableEq, Repr

/-- The name by which an option chooses a format. -/
def PathsFormat.name : PathsFormat → String
  | .text => "text"
  | .json => "json"

/-- A command with its options. -/
inductive Command where
  /-- Write the JSON schema of a schema document, to a file if one is given. -/
  | convert (schema : String) (options : Options) (output? : Option String)
  /-- List the array paths and the list paths of a schema document. -/
  | paths (schema : String) (options : Options) (format : PathsFormat)
  /-- Write the value of an instance document as its schema shapes it. -/
  | read (document schema : String) (options : Options)

/-- A name with its letters made small. The long s is a small s as well. -/
def smallLetters (name : String) : String :=
  String.ofList (name.toList.map fun c => if c = 'ſ' then 's' else c.toLower)

/-- The choice that an option's value names, regardless of case; without a value the default. -/
def choice {α : Type} (arguments : Arguments) (switch : Switch) (name : α → String)
    (choices : List α) (default : α) : Except UsageError α :=
  match arguments.value? switch with
  | none => .ok default
  | some value =>
      match choices.find? fun c => name c = smallLetters value with
      | some c => .ok c
      | none => .error (.invalidChoice switch.spelling value)

namespace Command

/-- The array policy that the options set. -/
def arrayPolicy (arguments : Arguments) : Options where
  arrayElementNames := arguments.valuesOf .arrayElement
  treatUnboundedAsArray := arguments.has .unboundedAsArray

/-- A conversion with the words after its name. -/
def convertOfWords (words : List String) : Except UsageError Command := do
  let arguments ← Arguments.ofWords
    [.dialect, .unboundedAsArray, .arrayElement, .originTypes, .output, .verbose] words
  let schema ← arguments.onlyValue "SCHEMA"
  let dialect ← choice arguments .dialect Dialect.name [.draft07, .draft202012] .draft202012
  let options : Options :=
    { arrayPolicy arguments with showOriginTypes := arguments.has .originTypes, dialect }
  return .convert schema options (arguments.value? .output)

/-- A listing of paths with the words after its name. -/
def pathsOfWords (words : List String) : Except UsageError Command := do
  let arguments ← Arguments.ofWords [.unboundedAsArray, .arrayElement, .output, .verbose] words
  let schema ← arguments.onlyValue "SCHEMA"
  let format ← choice arguments .output PathsFormat.name [.text, .json] .text
  return .paths schema (arrayPolicy arguments) format

/-- A reading of an instance document with the words after its name. -/
def readOfWords (words : List String) : Except UsageError Command := do
  let arguments ← Arguments.ofWords [.schema, .unboundedAsArray, .arrayElement, .verbose] words
  let document ← arguments.onlyValue "DOCUMENT"
  match arguments.value? .schema with
  | none => throw (.missingOption Switch.schema.spelling)
  | some schema => return .read document schema (arrayPolicy arguments)

/-- The command that a list of words asks for. -/
def ofName (name : String) (words : List String) : Except UsageError Command :=
  match name with
  | "convert" => convertOfWords words
  | "paths" => pathsOfWords words
  | "xml" => readOfWords words
  | _ =>
      .error
        (if name.startsWith "-" && name ≠ "-" then .unknownOption name else .unknownCommand name)

/-- The command that the arguments of a program ask for. The word `--` may stand in front of it. -/
def ofArguments : List String → Except UsageError Command
  | [] => .error .missingCommand
  | first :: rest =>
      if first = "--" then
        match rest with
        | [] => .error .missingCommand
        | name :: words => ofName name words
      else ofName first rest

end Command

end SchemaBridge.CommandLine
