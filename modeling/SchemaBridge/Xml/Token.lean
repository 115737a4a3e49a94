import SchemaBridge.Xml.Markup

/-!
# Markup tokens

The text after the document type is cut into tokens: tags, runs of text, literal sections, comments
and processing instructions. White space by itself is a token of its own, because it is all that may
stand beside the root element. Line breaks in text are single line feeds; the values of attributes
are still as they are written.
-/

set_option autoImplicit false

namespace SchemaBridge.Xml

/-- A tag, a run of text, a comment or a processing instruction. -/
inductive Token where
  /-- White space and nothing else. -/
  | space (text : List Char)
  /-- Text with references. -/
  | text (pieces : List Piece)
  /-- A literal section. -/
  | literal (text : List Char)
  /-- A start tag, or the tag of an empty element. -/
  | startTag (name : String) (attributes : List (String × List Char)) (isEmpty : Bool)
  | endTag (name : String)
  | comment
  | instruction (target : String)

/-- The attributes of a tag and its end; the flag tells whether the element is empty. White space
must stand before every attribute. There are at most `limit` attributes. -/
def readAttributes? (limit : Nat) (cs : List Char) :
    Option (List (String × List Char) × Bool × List Char) :=
  match skipSpace cs, limit with
  | '>' :: rest, _ => some ([], false, rest)
  | '/' :: '>' :: rest, _ => some ([], true, rest)
  | _, 0 => none
  | _, limit + 1 => do
      let (name, rest) ← takeName? (← requireSpace? cs)
      let rest ← takeLiteral? "=" (skipSpace rest)
      let (value, rest) ← takeQuoted? (skipSpace rest)
      let (attributes, isEmpty, rest) ← readAttributes? limit rest
      return ((name, value) :: attributes, isEmpty, rest)

/-- The token at the front. -/
def readToken? (cs : List Char) : Option (Token × List Char) :=
  match cs with
  | '<' :: '/' :: rest => do
      let (name, rest) ← takeName? rest
      return (.endTag name, ← closeDeclaration? rest)
  | '<' :: '?' :: rest =>
      (readInstruction? rest).map fun (target, rest) => (.instruction target, rest)
  | '<' :: '!' :: '-' :: '-' :: rest => (readComment? rest).map fun rest => (.comment, rest)
  | '<' :: '!' :: rest => do
      let (text, rest) ← takeUntil? [']', ']', '>'] (← takeLiteral? "[CDATA[" rest)
      return (.literal (normalizedLines text), rest)
  | '<' :: rest => do
      let (name, rest) ← takeName? rest
      let (attributes, isEmpty, rest) ← readAttributes? rest.length rest
      return (.startTag name attributes isEmpty, rest)
  | cs =>
      let text := normalizedLines (cs.takeWhile (· ≠ '<'))
      let rest := cs.dropWhile (· ≠ '<')
      if text.all isSpace then some (.space text, rest)
      else if (takeUntil? [']', ']', '>'] text).isSome then none
      else (splitPieces? text).map fun pieces => (.text pieces, rest)

/-- At most `limit` tokens that make up a text. -/
def tokensWithin? (limit : Nat) (cs : List Char) : Option (List Token) :=
  match cs, limit with
  | [], _ => some []
  | _, 0 => none
  | cs, limit + 1 => do
      let (token, rest) ← readToken? cs
      return token :: (← tokensWithin? limit rest)

/-- The tokens of a text. Every token takes at least one character, so there are no more tokens than
characters. -/
def tokens? (cs : List Char) : Option (List Token) := tokensWithin? cs.length cs

end SchemaBridge.Xml
