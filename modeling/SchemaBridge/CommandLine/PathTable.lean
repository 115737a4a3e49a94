import SchemaBridge.CommandLine.Markup

/-!
# Tables of paths

A table with a column of kinds and a column of paths. The first column is eight wide, the second as
wide as the widest line of its cells; each cell has a blank on both sides. Paths are texts with
markup, and a line break in a path makes its row higher.
-/

set_option autoImplicit false

namespace SchemaBridge.CommandLine

open Text

/-- The lines of a table: a border, the header, a border, the rows, and a border. -/
structure Frame where
  opening : Char
  line : Char
  crossing : Char
  closing : Char

/-- A border over two columns. -/
def Frame.border (frame : Frame) (first second : Nat) : String :=
  let run (width : Nat) : List Char := List.replicate (width + 2) frame.line
  String.ofList (frame.opening :: run first ++ frame.crossing :: run second ++ [frame.closing])

/-- A row of two cells between bars. -/
def tableRow (bar : Char) (first second : Nat) (cells : String × String) : String :=
  let edge := String.singleton bar
  edge ++ " " ++ padded first cells.1 ++ " " ++ edge ++ " " ++ padded second cells.2 ++ " " ++ edge

/-- The width of the column of kinds. -/
def kindWidth : Nat := 8

/-- The lines of a table of kinds and of lines of paths. -/
def tableLines (rows : List (String × List String)) : List String :=
  let header := ("Kind", ["Path"])
  let width := ((header :: rows).flatMap fun row => row.2.map columns).foldl max 0
  let rowLines (row : String × List String) : List String :=
    match row.2 with
    | [] => []
    | line :: lines =>
        tableRow '│' kindWidth width (row.1, line) ::
          lines.map fun line => tableRow '│' kindWidth width ("", line)
  [Frame.border ⟨'┏', '━', '┳', '┓'⟩ kindWidth width,
    tableRow '┃' kindWidth width ("Kind", "Path"),
    Frame.border ⟨'┡', '━', '╇', '┩'⟩ kindWidth width] ++
    rows.flatMap rowLines ++
    [Frame.border ⟨'└', '─', '┴', '┘'⟩ kindWidth width]

/-- The printed table of array paths and list paths, if their markup is in order. -/
def pathTable (arrayPaths listPaths : List String) : Except Failure String := do
  let row (kind path : String) : Except Failure (String × List String) :=
    return (kind, (← Markup.shown path).splitOn "\n")
  let arrays ← arrayPaths.mapM (row "array")
  let lists ← listPaths.mapM (row "list")
  return String.join ((tableLines (arrays ++ lists)).map (· ++ "\n"))

end SchemaBridge.CommandLine
