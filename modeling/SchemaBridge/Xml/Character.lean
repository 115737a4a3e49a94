import SchemaBridge.Text.Blank

/-!
# Characters of documents

The character classes of XML 1.0 (fifth edition): what may occur in a document at all, white space
of the markup, and the characters of names. Names without a colon are the parts of qualified names.
-/

set_option autoImplicit false

namespace SchemaBridge.Xml

/-- A character that may occur in a document. -/
def isDocumentChar (c : Char) : Bool :=
  Text.inRanges
    [(0x9, 0xa), (0xd, 0xd), (0x20, 0xd7ff), (0xe000, 0xfffd), (0x10000, 0x10ffff)] c.toNat

/-- White space of the markup. -/
def isSpace (c : Char) : Bool := c = ' ' || c = '\n' || c = '\t' || c = '\r'

/-- A character that starts a name without a colon. -/
def isNameStart (c : Char) : Bool :=
  Text.inRanges
    [(0x41, 0x5a), (0x5f, 0x5f), (0x61, 0x7a), (0xc0, 0xd6), (0xd8, 0xf6), (0xf8, 0x2ff),
      (0x370, 0x37d), (0x37f, 0x1fff), (0x200c, 0x200d), (0x2070, 0x218f), (0x2c00, 0x2fef),
      (0x3001, 0xd7ff), (0xf900, 0xfdcf), (0xfdf0, 0xfffd), (0x10000, 0xeffff)] c.toNat

/-- A character that continues a name without a colon. -/
def isNameRest (c : Char) : Bool :=
  isNameStart c ||
    Text.inRanges
      [(0x2d, 0x2e), (0x30, 0x39), (0xb7, 0xb7), (0x300, 0x36f), (0x203f, 0x2040)] c.toNat

/-- A name without a colon. -/
def isNCName : List Char → Bool
  | [] => false
  | c :: rest => isNameStart c && rest.all isNameRest

/-! ## Cutting pieces off the front -/

/-- The characters without leading white space. -/
def skipSpace (cs : List Char) : List Char := cs.dropWhile isSpace

/-- The characters after white space, of which there must be some. -/
def requireSpace? : List Char → Option (List Char)
  | [] => none
  | c :: rest => if isSpace c then some (skipSpace rest) else none

/-- Cut a literal piece off the front. -/
def takeLiteral? (piece : String) (cs : List Char) : Option (List Char) :=
  if piece.toList.isPrefixOf cs then some (cs.drop piece.toList.length) else none

/-- The first character of a name, a colon included, is at the front: cut the whole name off. -/
def takeName? : List Char → Option (String × List Char)
  | [] => none
  | c :: rest =>
      let continues (d : Char) : Bool := isNameRest d || d = ':'
      if isNameStart c || c = ':' then
        some (String.ofList (c :: rest.takeWhile continues), rest.dropWhile continues)
      else none

/-- A name token: name characters in any position. -/
def takeNameToken? (cs : List Char) : Option (String × List Char) :=
  let continues (d : Char) : Bool := isNameRest d || d = ':'
  let piece := cs.takeWhile continues
  if piece.isEmpty then none else some (String.ofList piece, cs.dropWhile continues)

/-- What stands before the first occurrence of a stop text, and what follows it. -/
def takeUntil? (stop : List Char) : List Char → Option (List Char × List Char)
  | [] => none
  | c :: rest =>
      if stop.isPrefixOf (c :: rest) then some ([], (c :: rest).drop stop.length)
      else
        match takeUntil? stop rest with
        | none => none
        | some (piece, tail) => some (c :: piece, tail)

/-- A text in single or double quotation marks. -/
def takeQuoted? : List Char → Option (List Char × List Char)
  | [] => none
  | mark :: rest => if mark = '"' || mark = '\'' then takeUntil? [mark] rest else none

end SchemaBridge.Xml
