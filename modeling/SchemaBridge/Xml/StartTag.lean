import SchemaBridge.Xml.Namespace
import SchemaBridge.Xml.Value

/-!
# Start tags

A start tag opens an element. Its attributes are read in order; then the namespace declarations
among them, and those that the document type gives the element by default, are in force, and names
get their namespaces. No attribute may be given twice, and two attributes should not have one name
behind different prefixes. Last, attributes that identify elements are entered.
-/

set_option autoImplicit false

namespace SchemaBridge.Xml

/-- No two entries are equal. -/
def allDistinct {α : Type} [BEq α] : List α → Bool
  | [] => true
  | a :: rest => !rest.contains a && allDistinct rest

/-! ## Attributes one by one -/

/-- What an attribute of a start tag turns out to be. -/
inductive TagItem where
  /-- The binding of a prefix. -/
  | binding (nsPrefix uri : String)
  /-- A namespace declaration that binds nothing. -/
  | idle
  | attribute (name : QualifiedName) (value : Value)

namespace TagItem

/-- The bindings among the items. -/
def bindings (items : List TagItem) : List (String × String) :=
  items.filterMap fun item =>
    match item with
    | .binding nsPrefix uri => some (nsPrefix, uri)
    | .idle | .attribute _ _ => none

/-- The attributes among the items. -/
def attributes (items : List TagItem) : List (QualifiedName × Value) :=
  items.filterMap fun item =>
    match item with
    | .attribute name value => some (name, value)
    | .idle | .binding _ _ => none

end TagItem

/-- The attribute that says how white space counts. -/
def spaceAttribute : QualifiedName := ⟨some "xml", "space"⟩

/-- Read an attribute of a tag. -/
def readTagItem (room : Nat) (tag : String) (entry : String × List Char) : Read TagItem := do
  let (written, literal) := entry
  Read.expect (QualifiedName.ofText? written).isSome
  let name := QualifiedName.ofText written
  let shaped (value : Value) (d : Doctype) : Value :=
    if d.isTokenized tag written then value.tokenized else value
  match name.declaredPrefix? with
  | some nsPrefix =>
      let value ← readSpaceValue room literal
      let uri := ((shaped value (← Read.doctype)).plain?).getD ""
      let verdict := declarationVerdict nsPrefix uri
      verdict.findings.forM Read.report
      return if verdict.binds then .binding nsPrefix uri else .idle
  | none =>
      let value ← readValue .document room literal
      let value := shaped value (← Read.doctype)
      if name = spaceAttribute && value.plain? ≠ some "default" && value.plain? ≠ some "preserve"
      then Read.report .warning
      return .attribute name value

/-! ## Names -/

/-- The bindings that the document type gives an element unless the tag declares the prefix. -/
def defaultBindings (d : Doctype) (element : QualifiedName) : List (String × String) :=
  (d.defaults element).filterMap fun entry =>
    match entry.1.declaredPrefix? with
    | some nsPrefix => if nsPrefix = "xml" then none else some (nsPrefix, entry.2)
    | none => none

/-- Attributes that are met, by the names they have in their namespaces. -/
abbrev MetAttributes : Type := List (Name × QualifiedName)

/-- Meet one more attribute. It is reported when an attribute of the same name was met behind
another prefix. -/
def meetAttribute (bindings : Bindings) (met : MetAttributes) (name : QualifiedName) :
    Read MetAttributes := do
  let expanded := bindings.attributeName name
  match met.lookup expanded with
  | none => return met ++ [(expanded, name)]
  | some other =>
      Read.expect (other = name)
      return met

/-- Report what is wrong with the names of attributes, of those in a tag and then of those that have
default values. Attributes with unbound prefixes are beyond comparison. -/
def reportAttributeNames (bindings : Bindings) (names defaults : List QualifiedName) :
    Read Unit := do
  names.forM fun name => Read.expect (bindings.knows name)
  let known := names.filter bindings.knows
  Read.require (allDistinct known)
  let met ← known.foldlM (meetAttribute bindings) []
  let _ ← defaults.foldlM
    (fun met name => do
      Read.expect (bindings.knows name)
      if bindings.knows name then meetAttribute bindings met name else return met)
    met

/-! ## Identifiers -/

/-- An attribute that identifies its element in every document. -/
def idAttribute : QualifiedName := ⟨some "xml", "id"⟩

/-- Enter the identifier of an element, which no other element may have. -/
def enterId (id : String) : Read Unit := do
  Read.expect (id ≠ "" && !(← get).ids.contains id)
  modify fun reading => { reading with ids := id :: reading.ids }

/-- Enter the value of an attribute if it identifies the element. Values that refer to entities do
not. -/
def enterAttribute (bindings : Bindings) (tag : String) (entry : QualifiedName × Value) :
    Read Unit := do
  let (name, value) := entry
  match value.plain? with
  | none => pure ()
  | some id =>
      if name = idAttribute then
        let bare := (skipSpace (skipSpace id.toList).reverse).reverse
        Read.expect (isNCName bare)
        enterId id
      else if bindings.knows name && (← Read.doctype).isIdentifier tag name then enterId id

/-! ## Elements -/

/-- An open element. Content is kept in reverse. -/
structure OpenElement where
  /-- The name as the start tag writes it, which the end tag must repeat. -/
  tag : String
  name : Name
  attributes : List (Name × String) := []
  bindings : Bindings
  content : List Content := []

namespace OpenElement

/-- The finished element. -/
def close (e : OpenElement) : Element := ⟨e.name, e.attributes, e.content.reverse⟩

/-- The element with a piece of content added. -/
def add (e : OpenElement) (piece : Content) : OpenElement :=
  { e with content := piece :: e.content }

end OpenElement

/-- Attributes of one name all have the value of the first of them. -/
def firstValues (attributes : List (Name × String)) : List (Name × String) :=
  attributes.map fun entry => (entry.1, (attributes.lookup entry.1).getD entry.2)

/-- Open the element of a start tag inside given bindings. In the text of an entity elements get no
identifiers. -/
def openElement (room : Nat) (isEntityText : Bool) (outer : Bindings) (tag : String)
    (raw : List (String × List Char)) : Read OpenElement := do
  Read.expect (QualifiedName.ofText? tag).isSome
  let element := QualifiedName.ofText tag
  let items ← raw.mapM (readTagItem room tag)
  let declared := TagItem.bindings items
  Read.require (allDistinct (declared.map Prod.fst))
  let d ← Read.doctype
  let bindings : Bindings := declared ++ defaultBindings d element ++ outer
  let attributes := TagItem.attributes items
  let defaults := (d.defaults element).map Prod.fst
  reportAttributeNames bindings (attributes.map Prod.fst)
    (defaults.filter fun name => name.declaredPrefix?.isNone)
  let name? := bindings.elementName? element
  Read.expect name?.isSome
  if !isEntityText then attributes.forM (enterAttribute bindings tag)
  let values := attributes.map fun (name, value) =>
    (bindings.attributeName name, value.text d.entities)
  return {
    tag
    name := name?.getD ⟨none, tag⟩
    attributes := firstValues values
    bindings }

end SchemaBridge.Xml
