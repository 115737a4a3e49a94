import SchemaBridge.Failure

/-!
# Local names

A name may carry its namespace in braces in front, or a prefix with a colon. The local name is what
follows the first closing brace and the last colon.
-/

set_option autoImplicit false

namespace SchemaBridge.Xml

/-- What follows the last colon; everything when there is none. -/
def afterLastColon (cs : List Char) : List Char :=
  (cs.reverse.takeWhile (· ≠ ':')).reverse

/-- The name without its namespace. An opening brace at the front must have a closing one. -/
def localName (name : String) : Except Failure String :=
  match name.toList with
  | '\x7b' :: rest =>
      match rest.dropWhile (· ≠ '\x7d') with
      | [] => .error .openNamespace
      | _ :: tail => .ok (String.ofList (afterLastColon tail))
  | cs => .ok (String.ofList (afterLastColon cs))

end SchemaBridge.Xml
