import SchemaBridge.CommandLine.Run

/-!
# The program

Reads the files that the arguments name, runs the command on what was found, and prints, writes and
exits as the outcome says. Nothing is decided here.
-/

set_option autoImplicit false

namespace SchemaBridge.CommandLine

/-- What stands under a path of the file system. -/
def findEntry (path : String) : IO Entry := do
  try
    return .file (← IO.FS.readBinFile path)
  catch
    -- A folder can be opened and not be read; a path that goes through a file cannot be opened.
    | .inappropriateType none .. => return .folder
    | .inappropriateType (some _) .. => return .unreachable true
    | .noFileOrDirectory .. => return .vacant
    | _ => return .unreachable false

/-- What stands under each of some paths. -/
def findEntries (paths : List String) : IO (Fields Entry) :=
  paths.mapM fun path => do return (path, ← findEntry path)

/-- Do what an outcome says. -/
def perform (outcome : Outcome) : IO UInt32 := do
  match outcome with
  | .misused error => IO.eprintln ("Error: " ++ error.message)
  | .refused failure => IO.eprintln (Outcome.explanation failure).trimAsciiEnd.toString
  | .broken failure => IO.eprintln ("Failure: " ++ failure.message?.getD "a value cannot be read")
  | .unwritable _ => IO.eprintln "Failure: the output cannot be written"
  | .done printed writing? =>
      if let some writing := writing? then
        IO.FS.writeFile writing.path writing.content
      IO.print printed
  return UInt32.ofNat outcome.exitCode

/-- Run the command that the arguments ask for on the files they name. -/
def runProgram (arguments : List String) : IO UInt32 := do
  match Command.ofArguments arguments with
  | .error error => perform (.misused error)
  | .ok command =>
      let entries ← findEntries command.namedPaths
      perform (run (fun path => (Fields.value? entries path).getD (.unreachable false)) arguments)

end SchemaBridge.CommandLine

/-- The program. -/
def main (arguments : List String) : IO UInt32 :=
  SchemaBridge.CommandLine.runProgram arguments
