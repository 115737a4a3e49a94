import SchemaBridge.Json.Literal

/-!
# Mistakes in the use of the command line

The ways in which a list of arguments is not a command. Every one of them ends the run before any
document is read.
-/

set_option autoImplicit false

namespace SchemaBridge.CommandLine

/-- Why a list of arguments is not a command. -/
inductive UsageError where
  | missingCommand
  | unknownCommand (name : String)
  | unknownOption (name : String)
  /-- An option stands last and has no value. -/
  | missingValue (option : String)
  /-- A flag is given a value. -/
  | unexpectedValue (option : String)
  | missingOption (option : String)
  | missingArgument (name : String)
  | unexpectedArgument (value : String)
  /-- A value is none of those that an option offers. -/
  | invalidChoice (option value : String)
  /-- There is no file with this path. -/
  | fileNotFound (path : String)
  /-- A file is needed and the path is that of a folder. -/
  | isFolder (path : String)
deriving DecidableEq, Repr

namespace UsageError

/-- The wording of a mistake. -/
def message : UsageError → String
  | .missingCommand => "Missing command."
  | .unknownCommand name => "No such command " ++ Json.quoted name ++ "."
  | .unknownOption name => "No such option: " ++ name
  | .missingValue option => "Option " ++ Json.quoted option ++ " requires an argument."
  | .unexpectedValue option => "Option " ++ Json.quoted option ++ " does not take a value."
  | .missingOption option => "Missing option " ++ Json.quoted option ++ "."
  | .missingArgument name => "Missing argument " ++ Json.quoted name ++ "."
  | .unexpectedArgument value => "Got unexpected extra argument (" ++ value ++ ")"
  | .invalidChoice option value =>
      "Invalid value for " ++ Json.quoted option ++ ": " ++ Json.quoted value ++ " is not a choice."
  | .fileNotFound path => "File " ++ Json.quoted path ++ " does not exist."
  | .isFolder path => "File " ++ Json.quoted path ++ " is a directory."

end UsageError

end SchemaBridge.CommandLine
