import SchemaBridge.Xml.Entity

/-!
# Attribute values

A literal becomes a value in three steps. White space that is written as such becomes blanks, and
references to characters become the characters; references to entities stay. Where values are
tokens, blanks around tokens go and single ones stay between them. Only then do entities give way to
their texts, in which line breaks and blanks are left alone.

The values of namespace declarations take the steps in another order: entities give way first, and
white space in their texts becomes blanks too.
-/

set_option autoImplicit false

namespace SchemaBridge.Xml

/-- A value whose references to entities stand as they are. Names of predefined entities do not
occur. -/
abbrev Value : Type := List Piece

/-- The value of a literal. References to unknown entities vanish where they are tolerated. -/
def readValue (place : ValuePlace) (room : Nat) (literal : List Char) : Read Value := do
  Read.require (!literal.contains '<')
  let pieces ← Read.ofOption (splitPieces? (blankSpace (normalizedLines literal)))
  let parts ← pieces.mapM fun piece => do
    match piece with
    | .char _ => return [piece]
    | .entity name =>
        match predefined? name with
        | some c => return [.char c]
        | none =>
            match ← Read.entityInValue name with
            | none => return []
            | some entity =>
                if !entity.isSettled place then settleEntity place room name entity
                let size := (((← Read.doctype).entities.value? name).map Entity.size).getD 0
                Read.countExpansion size
                return [piece]
  return parts.flatten

namespace Value

/-- The value as tokens: single blanks between them and none around. -/
def tokenized (value : Value) : Value :=
  let step (done : Value) (piece : Piece) : Value :=
    if piece = .char ' ' && (done.isEmpty || done.head? = some (.char ' ')) then done
    else piece :: done
  ((value.foldl step []).dropWhile (· = .char ' ')).reverse

/-- The value with its entities replaced by their texts. -/
def text (entities : Fields Entity) (value : Value) : String :=
  String.ofList <| value.flatMap fun piece =>
    match piece with
    | .char c => [c]
    | .entity name => entityText entities (entities.length + 1) name

/-- The text of a value in which no entity stands. -/
def plain? (value : Value) : Option String :=
  (value.mapM fun piece =>
    match piece with
    | Piece.char c => some c
    | .entity _ => none).map String.ofList

/-- The value as declarations keep it: references stand as they are, and so do ampersands. -/
def kept (value : Value) : String :=
  String.ofList <| value.flatMap fun piece =>
    match piece with
    | .char '&' => "&#38;".toList
    | .char c => [c]
    | .entity name => '&' :: (name.toList ++ [';'])

end Value

/-! ## Values of namespace declarations -/

/-- A text in the value of a namespace declaration, with references replaced; `expand` gives the
text of an entity. -/
def spaceText (expand : Entity → Read (List Char)) (text : List Char) : Read (List Char) := do
  Read.require (!text.contains '<')
  let pieces ← Read.ofOption (splitPieces? (blankSpace text))
  let parts ← pieces.mapM fun piece => do
    match piece with
    | .char c => return [c]
    | .entity name =>
        match predefined? name with
        | some c => return [c]
        | none =>
            match ← Read.entityInValue name with
            | none => return []
            | some entity => expand entity
  return parts.flatten

/-- The text of an entity in the value of a namespace declaration. -/
def spaceEntityText : Nat → Entity → Read (List Char)
  | 0, _ => Read.refuse
  | room + 1, entity => do
      Read.countExpansion (textSize entity.text)
      spaceText (spaceEntityText room) entity.text

/-- The value of a namespace declaration. -/
def readSpaceValue (room : Nat) (literal : List Char) : Read Value :=
  return (← spaceText (spaceEntityText room) (normalizedLines literal)).map .char

end SchemaBridge.Xml
