import SchemaBridge.Xml.Character

/-!
# References in text

Text and attribute values hold characters, character references and entity references.
`splitPieces?` takes a text apart in one pass; a reference is what stands between an ampersand and
the next semicolon.
-/

set_option autoImplicit false

namespace SchemaBridge.Xml

/-- A character or a reference to an entity. -/
inductive Piece where
  | char (c : Char)
  | entity (name : String)
deriving DecidableEq

/-- The value of a digit in a base of at most sixteen. -/
def digitInBase? (base : Nat) (c : Char) : Option Nat :=
  let value :=
    if '0' ≤ c ∧ c ≤ '9' then c.toNat - '0'.toNat
    else if 'a' ≤ c ∧ c ≤ 'f' then c.toNat - 'a'.toNat + 10
    else if 'A' ≤ c ∧ c ≤ 'F' then c.toNat - 'A'.toNat + 10
    else base
  if value < base then some value else none

/-- The number written by the digits, of which there must be some. -/
def numberInBase? (base : Nat) (digits : List Char) : Option Nat :=
  if digits.isEmpty then none
  else digits.foldl (fun n? c => do return (← n?) * base + (← digitInBase? base c)) (some 0)

/-- The character with a code point, if it may occur in a document. -/
def documentChar? (code : Nat) : Option Char :=
  if code.isValidChar then
    let c := Char.ofNat code
    if isDocumentChar c then some c else none
  else none

/-- The meaning of what stands between an ampersand and a semicolon. -/
def reference? : List Char → Option Piece
  | '#' :: 'x' :: digits => (numberInBase? 16 digits).bind fun n => (documentChar? n).map .char
  | '#' :: digits => (numberInBase? 10 digits).bind fun n => (documentChar? n).map .char
  | name =>
      match takeName? name with
      | some (whole, []) => some (.entity whole)
      | _ => none

/-- Take a text apart. `body?` holds, in reverse, what has been read of a reference. -/
def splitPiecesFrom? (body? : Option (List Char)) : List Char → Option (List Piece)
  | [] => if body?.isSome then none else some []
  | c :: rest =>
      match body? with
      | none =>
          if c = '&' then splitPiecesFrom? (some []) rest
          else (splitPiecesFrom? none rest).map (.char c :: ·)
      | some body =>
          if c = ';' then do
            let piece ← reference? body.reverse
            return piece :: (← splitPiecesFrom? none rest)
          else splitPiecesFrom? (some (c :: body)) rest

/-- The characters and references of a text, or `none` when a reference is malformed. -/
def splitPieces? (text : List Char) : Option (List Piece) := splitPiecesFrom? none text

/-- The characters that every document may refer to by name. -/
def predefined? (name : String) : Option Char :=
  Option.map Prod.snd
    ([("lt", '<'), ("gt", '>'), ("amp", '&'), ("quot", '"'), ("apos", '\'')].find? (·.1 = name))

/-- Line breaks as single line feeds. -/
def normalizedLines : List Char → List Char
  | [] => []
  | '\r' :: '\n' :: rest => '\n' :: normalizedLines rest
  | '\r' :: rest => '\n' :: normalizedLines rest
  | c :: rest => c :: normalizedLines rest

/-- White space as blanks, as it counts in attribute values. -/
def blankSpace (cs : List Char) : List Char := cs.map fun c => if isSpace c then ' ' else c

end SchemaBridge.Xml
