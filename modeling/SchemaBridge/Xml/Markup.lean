import SchemaBridge.Xml.Reference

/-!
# Parts of markup

What declarations and the document have in common: comments, processing instructions, the end of a
declaration, and the identifiers of things that stand elsewhere. Every function takes a part off the
front of a text.
-/

set_option autoImplicit false

namespace SchemaBridge.Xml

/-- What follows closing white space and a closing bracket. -/
def closeDeclaration? (cs : List Char) : Option (List Char) :=
  match skipSpace cs with
  | '>' :: rest => some rest
  | _ => none

/-- What follows the rest of a comment: two hyphens in it must end it. -/
def readComment? (cs : List Char) : Option (List Char) :=
  match takeUntil? ['-', '-'] cs with
  | some (_, '>' :: rest) => some rest
  | _ => none

/-- The target of a processing instruction and what follows the instruction. No target is `xml` in
any case of its letters. -/
def readInstruction? (cs : List Char) : Option (String × List Char) := do
  let (target, rest) ← takeName? cs
  if target.toLower = "xml" then none
  match takeLiteral? "?>" rest with
  | some rest => return (target, rest)
  | none => return (target, (← takeUntil? ['?', '>'] (← requireSpace? rest)).2)

/-! ## Identifiers of things elsewhere -/

/-- A character of a public identifier. -/
def isPublicIdChar (c : Char) : Bool :=
  c = ' ' || c = '\n' || c = '\r' || c.isAlphanum || "-'()+,./:=?;!*#@$_%".toList.contains c

/-- A public identifier with its keyword. -/
def takePublicId? (cs : List Char) : Option (List Char) := do
  let (publicId, rest) ← takeQuoted? (← requireSpace? (← takeLiteral? "PUBLIC" cs))
  if publicId.all isPublicIdChar then return rest else none

/-- An external identifier: the text of its system literal, which a public identifier may
precede. -/
def takeExternalId? (cs : List Char) : Option (List Char × List Char) :=
  match takeLiteral? "SYSTEM" cs with
  | some rest => (requireSpace? rest).bind takeQuoted?
  | none => ((takePublicId? cs).bind requireSpace?).bind takeQuoted?

/-- What follows a public identifier alone, or an external identifier. -/
def takeNotationId? (cs : List Char) : Option (List Char) :=
  match takeExternalId? cs with
  | some (_, rest) => some rest
  | none => takePublicId? cs

end SchemaBridge.Xml
