/-!
# Patterns

A pattern of a schema matches whole values and takes `^` and `$` as ordinary characters. The pattern
of a JSON schema is searched for and takes both as anchors. `normalizePattern` bridges the two: it
escapes the two characters and anchors the whole.

A pattern is read in units: a backslash with the character after it, or one character. Only units of
one character are escaped (`escapeAnchors`).
-/

set_option autoImplicit false

namespace SchemaBridge

/-- Escape `^` and `$` wherever they are not escaped already. -/
def escapeAnchors : List Char → List Char
  | [] => []
  | '\\' :: c :: rest => '\\' :: c :: escapeAnchors rest
  | c :: rest =>
      if c = '^' ∨ c = '$' then '\\' :: c :: escapeAnchors rest else c :: escapeAnchors rest

/-- A pattern with its anchor characters escaped. -/
def escapedPattern (pattern : String) : String :=
  String.ofList (escapeAnchors pattern.toList)

/-- A pattern that matches the same whole values when it is searched for. -/
def normalizePattern (pattern : String) : String :=
  "^(?:" ++ escapedPattern pattern ++ ")$"

end SchemaBridge
