import SchemaBridge.Xml.ContentModel
import SchemaBridge.Xml.Markup
import SchemaBridge.Xml.Value

/-!
# Declarations

The declarations of a document type: entities, elements, attributes and notations, with comments,
processing instructions and references to parameter entities between them. `readDoctype` reads a
whole document type; what it finds goes into the `Doctype` that the reading carries along.

The grammar is kept to the letter and its breach refuses the document. Beyond the grammar, errors
are reported where things are declared twice, where names hold colons that may not, and where a
default value does not have its type.
-/

set_option autoImplicit false

namespace SchemaBridge.Xml

/-! ## Entities -/

/-- What a general entity, or a parameter entity, may be named. -/
def expectNoColon (name : String) : Read Unit := Read.expect (!name.contains ':')

/-- The text that an entity value stands for. Character references are replaced and references to
entities stay. A parameter entity may not be referred to here, but where an unknown one is tolerated
the text ends before it. -/
def readEntityText (literal : List Char) : Read (List Char) := do
  let pieces ← Read.ofOption (splitPieces? (literal.takeWhile (· ≠ '%')))
  match literal.dropWhile (· ≠ '%') with
  | [] => pure ()
  | _ :: rest =>
      match takeName? rest with
      | some (name, ';' :: _) =>
          Read.modifyDoctype fun d => { d with isPartial := true }
          Read.require ((← Read.doctype).parameters.value? name).isNone
          Read.meetUnknown
      | _ => Read.refuse
  return pieces.flatMap fun piece =>
    match piece with
    | .char c => [c]
    | .entity name => '&' :: (name.toList ++ [';'])

/-- A declaration may say again what a predefined entity is: the character itself where it needs no
escape, or a reference to it by its number. -/
def restatesPredefined (c : Char) (entity : Entity) : Bool :=
  let text := String.ofList entity.text
  let hexDigit (n : Nat) : Char := "0123456789ABCDEF".toList.getD n '0'
  let hex := String.ofList [hexDigit (c.toNat / 16), hexDigit (c.toNat % 16), ';']
  entity.kind = .internal &&
    ((text = c.toString && c ≠ '<' && c ≠ '&') || text = "&#" ++ toString c.toNat ++ ";" ||
      (entity.text.take 3 = "&#x".toList &&
        (String.ofList (entity.text.drop 3)).toUpper = hex))

/-- Declare an entity. Predefined entities stay what they are. -/
def declareEntity (name : String) (entity : Entity) : Read Unit :=
  match predefined? name with
  | none => Read.modifyDoctype (·.declareEntity name entity)
  | some c => if restatesPredefined c entity then pure () else Read.report .warning

/-- An external identifier of an entity. Its system literal names a whole resource. -/
def readEntityId (cs : List Char) : Read (List Char) := do
  let (systemId, rest) ← Read.ofOption (takeExternalId? cs)
  Read.require (!systemId.contains '#')
  return rest

/-- The rest of the declaration of a parameter entity after its percent sign. -/
def readParameter (cs : List Char) : Read (List Char) := do
  let (name, rest) ← Read.ofOption ((requireSpace? cs).bind takeName?)
  expectNoColon name
  let rest ← Read.ofOption (requireSpace? rest)
  match takeQuoted? rest with
  | some (literal, rest) =>
      let text ← readEntityText literal
      Read.modifyDoctype (·.declareParameter name (some text))
      Read.ofOption (closeDeclaration? rest)
  | none =>
      let rest ← readEntityId rest
      Read.modifyDoctype (·.declareParameter name none)
      Read.ofOption (closeDeclaration? rest)

/-- The rest of the declaration of a general entity from its name on. Data that is not XML has a
notation, whose name may be missing. -/
def readGeneralEntity (cs : List Char) : Read (List Char) := do
  let (name, rest) ← Read.ofOption (takeName? cs)
  expectNoColon name
  let rest ← Read.ofOption (requireSpace? rest)
  match takeQuoted? rest with
  | some (literal, rest) =>
      declareEntity name { text := ← readEntityText literal }
      Read.ofOption (closeDeclaration? rest)
  | none =>
      let rest ← readEntityId rest
      match (requireSpace? rest).bind (takeLiteral? "NDATA") with
      | none =>
          declareEntity name { kind := .external }
          Read.ofOption (closeDeclaration? rest)
      | some rest =>
          declareEntity name { kind := .unparsed }
          let rest ← Read.ofOption (requireSpace? rest)
          Read.ofOption (closeDeclaration? (((takeName? rest).map Prod.snd).getD rest))

/-- The rest of the declaration of an entity. -/
def readEntity (cs : List Char) : Read (List Char) := do
  match ← Read.ofOption (requireSpace? cs) with
  | '%' :: rest => readParameter rest
  | rest => readGeneralEntity rest

/-! ## Elements and notations -/

/-- The rest of the declaration of an element. -/
def readElement (cs : List Char) : Read (List Char) := do
  let (name, rest) ← Read.ofOption ((requireSpace? cs).bind takeName?)
  let (model, rest) ← Read.ofOption ((requireSpace? rest).bind (takeUntil? ['>']))
  Read.require (isContentModel model)
  Read.expect (!(← Read.doctype).elements.contains name)
  Read.modifyDoctype fun d => { d with elements := name :: d.elements }
  return rest

/-- The rest of the declaration of a notation. -/
def readNotation (cs : List Char) : Read (List Char) := do
  let (name, rest) ← Read.ofOption ((requireSpace? cs).bind takeName?)
  expectNoColon name
  let rest ← Read.ofOption (((requireSpace? rest).bind takeNotationId?).bind closeDeclaration?)
  Read.expect (!(← Read.doctype).notations.contains name)
  Read.modifyDoctype fun d => { d with notations := name :: d.notations }
  return rest

/-! ## Attributes -/

/-- The pieces of a text between bars. -/
def splitBars : List Char → List (List Char)
  | [] => [[]]
  | c :: rest =>
      match splitBars rest with
      | [] => [[c]]
      | piece :: pieces => if c = '|' then [] :: piece :: pieces else (c :: piece) :: pieces

/-- The alternatives of a list in parentheses; `take?` cuts one off the front. -/
def takeAlternatives? (take? : List Char → Option (String × List Char)) (cs : List Char) :
    Option (List String × List Char) := do
  let (list, rest) ← takeUntil? [')'] (← takeLiteral? "(" cs)
  let items ← (splitBars list).mapM fun piece => do
    let (item, rest) ← take? (skipSpace piece)
    if rest.all isSpace then some item else none
  return (items, rest)

/-- The types that are one word. -/
def namedTypes : List (String × AttributeType) :=
  [("CDATA", .characters), ("ID", .id), ("IDREF", .idReference), ("IDREFS", .idReferences),
    ("ENTITY", .entityName), ("ENTITIES", .entityNames), ("NMTOKEN", .token), ("NMTOKENS", .tokens)]

/-- The type of an attribute. -/
def takeAttributeType? (cs : List Char) : Option (AttributeType × List Char) :=
  match takeName? cs with
  | none => (takeAlternatives? takeNameToken? cs).map fun (items, rest) => (.choice items, rest)
  | some ("NOTATION", rest) => do
      let (names, rest) ← takeAlternatives? takeName? (← requireSpace? rest)
      return (.notationName names, rest)
  | some (name, rest) => (namedTypes.lookup name).map fun type => (type, rest)

/-- How often an entry of a list stands in it before. -/
def repetitions : List String → Nat
  | [] => 0
  | item :: rest => (if rest.contains item then 1 else 0) + repetitions rest

/-- The words of a text between single blanks, or between more of them. -/
def blankWords (text : String) : List String := (text.splitOn " ").filter (· ≠ "")

/-- The text is one name, a colon in it allowed. -/
def isName (text : String) : Bool :=
  match takeName? text.toList with
  | some (_, []) => true
  | _ => false

/-- The text is one name token. -/
def isNameToken (text : String) : Bool :=
  match takeNameToken? text.toList with
  | some (_, []) => true
  | _ => false

/-- A value has the form that a type asks for. Of a choice only the form counts. -/
def AttributeType.admits (type : AttributeType) (value : String) : Bool :=
  match type with
  | .characters => true
  | .id | .idReference | .entityName | .notationName _ => isName value
  | .idReferences | .entityNames => value ≠ "" && (blankWords value).all isName
  | .token => isNameToken value
  | .tokens | .choice _ => value ≠ "" && (blankWords value).all isNameToken

/-- The text with single blanks between words and none around. -/
def singleBlanks (text : String) : String := " ".intercalate (blankWords text)

/-- A default: required, implied, or a value. -/
def readDefault (room : Nat) (cs : List Char) : Read (Option String × List Char) := do
  match (takeLiteral? "#REQUIRED" cs).orElse fun _ => takeLiteral? "#IMPLIED" cs with
  | some rest => return (none, rest)
  | none =>
      let cs ←
        match takeLiteral? "#FIXED" cs with
        | some rest => Read.ofOption (requireSpace? rest)
        | none => pure cs
      let (literal, rest) ← Read.ofOption (takeQuoted? cs)
      let value ← readValue .declaration room literal
      return (some value.kept, rest)

/-- Declare an attribute of an element. An element has at most one attribute that identifies it. -/
def declareAttribute (declared : AttributeDeclaration) : Read Unit := do
  Read.expect (declared.name ≠ "xml:id" || declared.type = .id)
  match declared.default? with
  | some value => Read.expect (declared.type.admits value)
  | none => pure ()
  let d ← Read.doctype
  if (d.attribute? declared.element declared.name).isSome then Read.report .warning
  else
    let hasOther := d.attributes.any fun other =>
      other.element = declared.element && other.type = .id
    Read.expect (declared.type ≠ .id || !hasOther)
    Read.modifyDoctype fun d => { d with attributes := d.attributes ++ [declared] }

/-- The attributes of the declaration of an attribute list, at most `limit` of them. -/
def readAttributes (room : Nat) (element : String) : Nat → List Char → Read (List Char)
  | limit, cs =>
      match closeDeclaration? cs, limit with
      | some rest, _ => return rest
      | none, 0 => Read.refuse
      | none, limit + 1 => do
          let (name, rest) ← Read.ofOption ((requireSpace? cs).bind takeName?)
          let (type, rest) ← Read.ofOption ((requireSpace? rest).bind takeAttributeType?)
          match type with
          | .notationName items | .choice items =>
              (List.range (repetitions items)).forM fun _ => Read.report .error
          | _ => pure ()
          let (default?, rest) ← readDefault room (← Read.ofOption (requireSpace? rest))
          let default? := if type = .characters then default? else default?.map singleBlanks
          declareAttribute ⟨element, name, type, default?⟩
          readAttributes room element limit rest

/-- The rest of the declaration of an attribute list. -/
def readAttributeList (room : Nat) (cs : List Char) : Read (List Char) := do
  let (element, rest) ← Read.ofOption ((requireSpace? cs).bind takeName?)
  readAttributes room element cs.length rest

/-! ## Document types -/

/-- One comment, processing instruction or markup declaration. -/
def readDeclaration (room : Nat) (cs : List Char) : Read (List Char) :=
  match cs with
  | '<' :: '?' :: rest => do
      let (target, rest) ← Read.ofOption (readInstruction? rest)
      Read.reportTarget target
      return rest
  | '<' :: '!' :: '-' :: '-' :: rest => Read.ofOption (readComment? rest)
  | '<' :: '!' :: rest =>
      match takeName? rest with
      | some ("ENTITY", rest) => readEntity rest
      | some ("ATTLIST", rest) => readAttributeList room rest
      | some ("ELEMENT", rest) => readElement rest
      | some ("NOTATION", rest) => readNotation rest
      | _ => Read.refuse
  | _ => Read.refuse

/-- Declarations up to a closing square bracket, or up to the end in the text of a parameter entity;
there are at most `steps` of them. `expand` reads the text of a parameter entity. -/
def readSubset (room : Nat) (expand : List Char → Read Unit) (isEntityText : Bool) :
    Nat → List Char → Read (List Char)
  | 0, _ => Read.refuse
  | steps + 1, cs =>
      match skipSpace cs with
      | [] => if isEntityText then return [] else Read.refuse
      | ']' :: rest => if isEntityText then Read.refuse else return rest
      | '%' :: rest =>
          match takeName? rest with
          | some (name, ';' :: rest) => do
              Read.modifyDoctype fun d => { d with isPartial := true }
              match (← Read.doctype).parameters.value? name with
              | none => Read.meetUnknown
              | some none => pure ()
              | some (some text) =>
                  Read.countExpansion (textSize text)
                  expand text
              readSubset room expand isEntityText steps rest
          | _ => Read.refuse
      | cs => do
          let rest ← readDeclaration room cs
          readSubset room expand isEntityText steps rest

/-- The text of a parameter entity: whole declarations. -/
def readParameterText : Nat → List Char → Read Unit
  | 0, _ => Read.refuse
  | room + 1, text => do
      let _ ← readSubset room (readParameterText room) true (text.length + 1) text

/-- The rest of a document type declaration. -/
def readDoctype (cs : List Char) : Read (List Char) := do
  let (_, rest) ← Read.ofOption ((requireSpace? cs).bind takeName?)
  let rest ←
    match (requireSpace? rest).bind takeExternalId? with
    | some (_, rest) => do
        Read.modifyDoctype fun d => { d with isPartial := true }
        pure rest
    | none => pure rest
  match skipSpace rest with
  | '[' :: rest => do
      let rest ← readSubset rootRoom (readParameterText rootRoom) false (rest.length + 1) rest
      Read.ofOption (closeDeclaration? rest)
  | rest => Read.ofOption (closeDeclaration? rest)

end SchemaBridge.Xml
