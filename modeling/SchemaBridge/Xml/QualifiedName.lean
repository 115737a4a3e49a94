import SchemaBridge.Xml.Character

/-!
# Qualified names

A name in markup is a local part, or a prefix and a local part with a colon between them; neither
part holds a colon. A name that has no such parts is still a name of its own: it stands as a whole
and without a prefix.
-/

set_option autoImplicit false

namespace SchemaBridge.Xml

/-- A name in its parts. -/
structure QualifiedName where
  nsPrefix? : Option String := none
  localPart : String
deriving DecidableEq

namespace QualifiedName

/-- The parts of a name, if it is well-formed. -/
def ofText? (text : String) : Option QualifiedName :=
  let head := text.toList.takeWhile (· ≠ ':')
  match text.toList.dropWhile (· ≠ ':') with
  | [] => if isNCName head then some ⟨none, text⟩ else none
  | _ :: tail =>
      if isNCName head && isNCName tail then some ⟨some (String.ofList head), String.ofList tail⟩
      else none

/-- The parts of a name; a malformed one stands as a whole. -/
def ofText (text : String) : QualifiedName := (ofText? text).getD ⟨none, text⟩

/-- A name cut at its first colon, wherever that is but in the first place. Declarations of
attributes file names in this way. -/
def cut (text : String) : QualifiedName :=
  match text.toList.takeWhile (· ≠ ':'), text.toList.dropWhile (· ≠ ':') with
  | _, [] | [], _ => ⟨none, text⟩
  | head, _ :: tail => ⟨some (String.ofList head), String.ofList tail⟩

/-- The name as markup writes it. -/
def written (name : QualifiedName) : String :=
  match name.nsPrefix? with
  | none => name.localPart
  | some nsPrefix => nsPrefix ++ ":" ++ name.localPart

end QualifiedName

end SchemaBridge.Xml
