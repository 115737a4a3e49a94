import SchemaBridge.CommandLine.Command
import SchemaBridge.CommandLine.Folder
import SchemaBridge.CommandLine.PathTable
import SchemaBridge.Instance.Reading
import SchemaBridge.Json.Printer

/-!
# Running a command

A command is run against what is found under the paths it names. First all its paths are checked,
then its documents are read, and last its output is written. So a command with a wrong path reads
nothing, and a command that fails writes nothing.

`Outcome` says how a run ends. A malformed document, a document without a schema and a schema
without a top-level element are explained to the user; any other failure ends the run without an
explanation.
-/

set_option autoImplicit false

namespace SchemaBridge.CommandLine

open Xsd

/-- A file to be written. -/
structure Writing where
  path : String
  content : String
deriving DecidableEq, Repr

/-- Why a file cannot be written. -/
inductive WritingFailure where
  | folderMissing
  | behindFile
  | isFolder
deriving DecidableEq, Repr

/-- How a run ends. -/
inductive Outcome where
  /-- The arguments are not a command. -/
  | misused (error : UsageError)
  /-- The documents are not what the command needs, and the user is told so. -/
  | refused (failure : Failure)
  /-- The run breaks off. -/
  | broken (failure : Failure)
  /-- The run breaks off because its output cannot be written. -/
  | unwritable (failure : WritingFailure)
  /-- The command is done: what it prints, and the file it writes. -/
  | done (printed : String) (writing? : Option Writing)

namespace Outcome

/-- The exit code of a run. -/
def exitCode : Outcome → Nat
  | .misused _ => 2
  | .refused _ | .broken _ | .unwritable _ => 1
  | .done .. => 0

/-- The outcome of a failure: the failures that documents can cause are explained. -/
def ofFailure : Failure → Outcome
  | .malformedXml => .refused .malformedXml
  | .schemaMissing => .refused .schemaMissing
  | .rootElementMissing => .refused .rootElementMissing
  | failure => .broken failure

/-- What the user is told about a failure. -/
def explanation (failure : Failure) : String :=
  match failure.message? with
  | some message => "Error: " ++ message ++ "\n"
  | none => "Error: XML parse error"

end Outcome

/-- The content of the file that must stand under a path. -/
def fileAt (entry : String → Entry) (path : String) : Except UsageError ByteArray :=
  match entry path with
  | .file content => .ok content
  | .folder => .error (.isFolder path)
  | .vacant | .unreachable _ => .error (.fileNotFound path)

/-- A path can be that of an output file unless a folder has it. -/
def checkOutput (entry : String → Entry) (path : String) : Except UsageError Unit :=
  match entry path with
  | .folder => .error (.isFolder path)
  | .file _ | .vacant | .unreachable _ => .ok ()

/-- The columns of the terminal. -/
def terminalWidth : Nat := 80

/-- The lines that tell of a written file. -/
def writtenLines (path : String) : Except Failure String := do
  let text ← Markup.shown ("[green]✓[/green] Wrote " ++ path)
  let lines := (text.splitOn "\n").flatMap (Markup.wrapped terminalWidth)
  return String.join (lines.map (· ++ "\n"))

/-- Write the printed value to a file, or say why that is not possible. -/
def writeTo (entry : String → Entry) (path content : String) : Outcome :=
  let tidied := tidiedPath path
  match entry tidied with
  | .file _ | .vacant =>
      match writtenLines tidied with
      | .ok printed => .done printed (some ⟨tidied, content⟩)
      | .error failure => .broken failure
  | .folder => .unwritable .isFolder
  | .unreachable true => .unwritable .behindFile
  | .unreachable false => .unwritable .folderMissing

/-- A printed JSON value on lines of its own. -/
def jsonLines (escaping : Escaping) (value : Json) : String := value.pretty escaping ++ "\n"

/-- The schema document in a file's content. -/
def schemaOfBytes (content : ByteArray) : Except Failure Document :=
  (Xml.parseBytes content).bind documentOfTree

/-- An outcome from a value or a failure. -/
def Outcome.ofResult {α : Type} (result : Except Failure α) (present : α → Outcome) : Outcome :=
  match result with
  | .ok value => present value
  | .error failure => ofFailure failure

namespace Command

/-- Convert a schema, once its path and the output path have been checked. -/
def runConvert (entry : String → Entry) (content : ByteArray) (options : Options)
    (output? : Option String) : Outcome :=
  .ofResult ((schemaOfBytes content).bind (convertWith options)) fun schema =>
    match output? with
    | none => .done (jsonLines .minimal schema.toJson) none
    | some path => writeTo entry path (jsonLines .ascii schema.toJson)

/-- List the paths of a schema. -/
def runPaths (content : ByteArray) (options : Options) (format : PathsFormat) : Outcome :=
  .ofResult (schemaOfBytes content) fun document =>
    let arrayPaths := sortedPaths (document.arrayPaths options)
    let listPaths := sortedPaths (deriveListPaths document)
    match format with
    | .text => .ofResult (pathTable arrayPaths listPaths) fun table => .done table none
    | .json =>
        .done (jsonLines .minimal (.obj
          [("array_paths", .ofNames arrayPaths), ("list_paths", .ofNames listPaths)])) none

/-- Read an instance document along a schema. -/
def runRead (document schema : ByteArray) (options : Options) : Outcome :=
  let value : Except Failure (Fields Json) := do
    let reading : ReadingOptions :=
      { arrayElementNames? := some options.arrayElementNames
        treatUnboundedAsArray := options.treatUnboundedAsArray
        schema? := some (← schemaOfBytes schema) }
    readInstance reading (Xml.parseBytes document)
  .ofResult value fun fields => .done (jsonLines .minimal (.obj fields)) none

/-- Run a command against what is found under its paths. -/
def run (entry : String → Entry) : Command → Except UsageError Outcome
  | .convert schema options output? => do
      let content ← fileAt entry schema
      output?.forM (checkOutput entry)
      return runConvert entry content options output?
  | .paths schema options format => do
      return runPaths (← fileAt entry schema) options format
  | .read document schema options => do
      let content ← fileAt entry document
      return runRead content (← fileAt entry schema) options

/-- The paths that a command names. -/
def namedPaths : Command → List String
  | .convert schema _ output? =>
      schema :: (output?.toList.flatMap fun path => [path, tidiedPath path])
  | .paths schema .. => [schema]
  | .read document schema _ => [document, schema]

end Command

/-- Run the command that the arguments of a program ask for. -/
def run (entry : String → Entry) (arguments : List String) : Outcome :=
  match (Command.ofArguments arguments).bind (Command.run entry) with
  | .ok outcome => outcome
  | .error error => .misused error

/-- The folder after a run: with the file that the run has written. -/
def Folder.after (folder : Folder) : Outcome → Folder
  | .done _ (some writing) => folder.write writing.path writing.content.toUTF8
  | _ => folder

end SchemaBridge.CommandLine
