import SchemaBridge.Failure
import SchemaBridge.Xml.Declarations
import SchemaBridge.Xml.StartTag
import SchemaBridge.Xml.Token

/-!
# Parsing documents

A document is an optional declaration, an optional document type, and one root element, with white
space, comments and processing instructions around them. `parse` reads the whole text or fails; the
only failure is that the document is refused, by a breach of the grammar or by its reports.

The tree is built in one pass over the tokens with a list of open elements. A reference in content
stays a reference. The first one to an entity reads the text of the entity as content, which must be
well-formed by itself; the elements found there are dropped again.
-/

set_option autoImplicit false

namespace SchemaBridge.Xml

/-- The greatest number of elements that may be open at once. -/
def greatestDepth : Nat := 256

/-! ## Building the tree -/

/-- Where a text stands. -/
structure Surroundings where
  /-- The number of texts that may still be opened inside. -/
  room : Nat := rootRoom
  /-- The number of elements that are open around the text. -/
  around : Nat := 0
  isEntityText : Bool := false

/-- The pieces of a run of text as content: characters are gathered, and `meet` looks at every
reference to an entity. `run` holds the characters before the next reference in reverse. -/
def textContent (meet : String → Read Unit) (run : List Char) : List Piece → Read (List Content)
  | [] => return [.text (String.ofList run.reverse)]
  | .char c :: rest => textContent meet (c :: run) rest
  | .entity name :: rest =>
      match predefined? name with
      | some c => textContent meet (c :: run) rest
      | none => do
          meet name
          let content ← textContent meet [] rest
          return .text (String.ofList run.reverse) :: .reference name :: content

/-- What follows the root element: white space, comments and processing instructions. -/
def readEpilog (tokens : List Token) : Read Unit :=
  tokens.forM fun token =>
    match token with
    | .space _ | .comment => pure ()
    | .instruction target => Read.reportTarget target
    | .text _ | .literal _ | .startTag _ _ _ | .endTag _ => Read.refuse

/-- The root element of a list of tokens, given the elements that are open, the innermost first.
`meet` looks at references to entities, given the number of elements that are open around them. -/
def build (place : Surroundings) (meet : Nat → String → Read Unit) :
    List OpenElement → List Token → Read Element
  | _, [] => Read.refuse
  | [], token :: rest =>
      match token with
      | .space _ | .comment => build place meet [] rest
      | .instruction target => do
          Read.reportTarget target
          build place meet [] rest
      | .startTag tag raw isEmpty => do
          let e ← openElement place.room place.isEntityText Bindings.root tag raw
          if isEmpty then
            readEpilog rest
            return e.close
          else build place meet [e] rest
      | .text _ | .literal _ | .endTag _ => Read.refuse
  | e :: outer, token :: rest =>
      match token with
      | .comment => build place meet (e :: outer) rest
      | .instruction target => do
          Read.reportTarget target
          build place meet (e :: outer) rest
      | .space text | .literal text =>
          build place meet (e.add (.text (String.ofList text)) :: outer) rest
      | .text pieces => do
          let content ← textContent (meet (place.around + outer.length + 1)) [] pieces
          build place meet (content.foldl OpenElement.add e :: outer) rest
      | .startTag tag raw isEmpty => do
          Read.require (place.around + outer.length + 1 < greatestDepth)
          let inner ← openElement place.room place.isEntityText e.bindings tag raw
          if isEmpty then build place meet (e.add (.element inner.close) :: outer) rest
          else build place meet (inner :: e :: outer) rest
      | .endTag tag =>
          if tag ≠ e.tag then Read.refuse
          else
            match outer with
            | [] => do
                readEpilog rest
                return e.close
            | parent :: outer => build place meet (parent.add (.element e.close) :: outer) rest

/-! ## References in content -/

/-- Look at a reference to an entity in content; `readText` reads the text of an entity that is not
read yet. -/
def meetReference (readText : String → Entity → Read Unit) (name : String) : Read Unit := do
  match (← Read.doctype).entities.value? name with
  | none => Read.meetUnknown
  | some entity =>
      match entity.kind with
      | .unparsed => Read.refuse
      | .external => pure ()
      | .internal =>
          if !entity.isRead then readText name entity
          let size := (((← Read.doctype).entities.value? name).map Entity.size).getD 0
          Read.countExpansion size

/-- Read the text of an entity as content, as if it stood in an element whose tag no document can
write. No prefix that is bound around the reference is bound there. -/
def readEntityContent : Nat → Nat → String → Entity → Read Unit
  | 0, _, _, _ => Read.refuse
  | room + 1, around, name, entity => do
      Read.require (around < greatestDepth)
      let tokens ← Read.ofOption (tokens? entity.text)
      let before := (← get).expansion
      modify fun reading => { reading with expansion := 0 }
      let frame : OpenElement := { tag := "", name := ⟨none, ""⟩, bindings := Bindings.root }
      let place : Surroundings := ⟨room, around, true⟩
      let _ ← build place (fun around => meetReference (readEntityContent room around)) [frame]
        (tokens ++ [.endTag ""])
      let size := (← get).expansion + textSize entity.text
      modify fun reading => { reading with expansion := before }
      Read.modifyDoctype fun d =>
        { d with
          entities := d.entities.put name
            { entity with text := normalizedLines entity.text, isRead := true, size } }

/-! ## Whole documents -/

/-- The value of a pseudo-attribute of the declaration. -/
def takeSetting? (name : String) (cs : List Char) : Option (String × List Char) := do
  let rest ← takeLiteral? name cs
  let rest ← takeLiteral? "=" (skipSpace rest)
  let (value, rest) ← takeQuoted? (skipSpace rest)
  return (String.ofList value, rest)

/-- A version number of the first major version. -/
def isVersion (version : String) : Bool :=
  match version.toList with
  | '1' :: '.' :: rest => rest.all Char.isDigit
  | _ => false

/-- The form of the name of an encoding. -/
def isEncodingName (name : String) : Bool :=
  match name.toList with
  | [] => false
  | c :: rest => c.isAlpha && rest.all fun d => d.isAlphanum || d = '.' || d = '_' || d = '-'

/-- The declaration of a document. -/
structure DeclarationLine where
  version : String := "1.0"
  encoding? : Option String := none
  standalone : Bool := false

/-- The declaration at the front of a text, and the text after it. -/
def readDeclarationLine? (cs : List Char) : Option (DeclarationLine × List Char) := do
  let (version, rest) ← takeSetting? "version" (← requireSpace? (← takeLiteral? "<?xml" cs))
  if !isVersion version then none
  let (encoding?, rest) ←
    match (requireSpace? rest).bind (takeSetting? "encoding") with
    | some (encoding, rest) => if isEncodingName encoding then some (some encoding, rest) else none
    | none => some (none, rest)
  let (standalone, rest) ←
    match (requireSpace? rest).bind (takeSetting? "standalone") with
    | some ("yes", rest) => some (true, rest)
    | some ("no", rest) => some (false, rest)
    | some _ => none
    | none => some (false, rest)
  return (⟨version, encoding?, standalone⟩, ← takeLiteral? "?>" (skipSpace rest))

/-- The text starts with a declaration. -/
def hasDeclarationLine (cs : List Char) : Bool :=
  match takeLiteral? "<?xml" cs with
  | some (c :: _) => isSpace c
  | _ => false

/-- The text after white space, comments and processing instructions, at most `limit` of them. -/
def readProlog : Nat → List Char → Read (List Char)
  | 0, _ => Read.refuse
  | limit + 1, cs =>
      match skipSpace cs with
      | '<' :: '?' :: rest => do
          let (target, rest) ← Read.ofOption (readInstruction? rest)
          Read.reportTarget target
          readProlog limit rest
      | '<' :: '!' :: '-' :: '-' :: rest => do
          readProlog limit (← Read.ofOption (readComment? rest))
      | cs => return cs

/-- The root element of the text of a document. -/
def readRoot (cs : List Char) : Read Element := do
  Read.require (cs.all isDocumentChar)
  let (line, cs) ←
    if hasDeclarationLine cs then Read.ofOption (readDeclarationLine? cs)
    else pure (({} : DeclarationLine), cs)
  if line.version ≠ "1.0" then Read.report .warning
  Read.modifyDoctype fun d => { d with standalone := line.standalone }
  let rest ← readProlog (cs.length + 1) cs
  let rest ←
    match takeLiteral? "<!DOCTYPE" rest with
    | some rest => readDoctype rest
    | none => pure rest
  let meet (around : Nat) : String → Read Unit := meetReference (readEntityContent rootRoom around)
  build {} meet [] (← Read.ofOption (tokens? rest))

/-- The root element of a document given as text, in which one byte order mark may come first. The
encoding that the document names has no meaning here. -/
def parse (text : String) : Except Failure Element :=
  let cs :=
    match text.toList with
    | '\ufeff' :: rest => rest
    | cs => cs
  match (readRoot cs).run { length := textSize cs } with
  | some (element, reading) =>
      if reading.reports.pass then .ok element else .error .malformedXml
  | none => .error .malformedXml

end SchemaBridge.Xml
