import SchemaBridge.Fields

/-!
# Files by path

What a command finds under the paths it is given. A path is a list of steps between slashes: empty
steps and `.` stay where they are, `..` goes up, a name goes down. Steps are taken one after
another, so a path that goes through something missing leads nowhere, even if it comes back.

`Folder` is a folder of files that is held in memory; its subfolders are those that the files' paths
name.
-/

set_option autoImplicit false

namespace SchemaBridge.CommandLine

/-- What is found under a path. -/
inductive Entry where
  | file (content : ByteArray)
  | folder
  /-- Nothing, in a folder that exists. -/
  | vacant
  /-- Nothing, and the folder does not exist either; a file stands in its place or nothing does. -/
  | unreachable (behindFile : Bool)

/-- The steps of a path. -/
def pathSteps (path : String) : List String := path.splitOn "/"

/-- The path without steps that stay where they are; the path of the working folder itself is `.`.
-/
def tidiedPath (path : String) : String :=
  let steps := (pathSteps path).filter fun step => step ≠ "" && step ≠ "."
  let root := if path.startsWith "/" then "/" else ""
  if steps.isEmpty && root = "" then "." else root ++ String.intercalate "/" steps

/-- Files by their paths below a working folder. -/
structure Folder where
  files : Fields ByteArray := []

namespace Folder

/-- The names that lead from the working folder to each file. -/
def locations (folder : Folder) : List (List String) :=
  (Fields.names folder.files).map pathSteps

/-- A subfolder: some file's names start with these names and go on. -/
def hasFolder (folder : Folder) (names : List String) : Bool :=
  names.isEmpty ||
    folder.locations.any fun location => names.isPrefixOf location && names ≠ location

/-- What stands at a place below an existing folder. -/
def entryAt (folder : Folder) (names : List String) : Entry :=
  if folder.hasFolder names then .folder
  else
    match folder.files.value? (String.intercalate "/" names) with
    | some content => .file content
    | none => .vacant

/-- What is found by taking steps from a place where an entry stands. -/
def walk (folder : Folder) (here : List String) (entry : Entry) : List String → Entry
  | [] => entry
  | step :: steps =>
      match entry with
      | .folder =>
          let there :=
            if step = "" || step = "." then here
            else if step = ".." then here.dropLast
            else here ++ [step]
          walk folder there (folder.entryAt there) steps
      | .file _ => .unreachable true
      | .vacant => .unreachable false
      | .unreachable behindFile => .unreachable behindFile

/-- What is found under a path. The empty path leads nowhere, and so do paths from the root. -/
def entry (folder : Folder) (path : String) : Entry :=
  if path = "" || path.startsWith "/" then .unreachable false
  else folder.walk [] .folder (pathSteps path)

/-- The names that steps lead to, from given ones on. -/
def location (here : List String) : List String → List String
  | [] => here
  | step :: steps =>
      if step = "" || step = "." then location here steps
      else if step = ".." then location here.dropLast steps
      else location (here ++ [step]) steps

/-- The folder with a file written under a path. -/
def write (folder : Folder) (path : String) (content : ByteArray) : Folder :=
  ⟨folder.files.put (String.intercalate "/" (location [] (pathSteps path))) content⟩

/-- The files whose paths another folder does not have. -/
def filesNotIn (folder other : Folder) : Fields ByteArray :=
  List.filter (fun file => (other.files.value? file.1).isNone) folder.files

end Folder

end SchemaBridge.CommandLine
