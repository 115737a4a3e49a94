import SchemaBridge.Scalar.Reading
import SchemaBridge.Xml.Tree
import SchemaBridge.Xsd.Model

/-!
# Values of element trees

An element tree becomes nested values. Attributes and children are fields of an object, attributes
under their local name after `@_`, and text beside them is a field of its own. An element with
neither attributes nor children is its text.

Children of one name share a field: two or more of them form an array, and so does a single one
where the shape asks for arrays. A field is a `Slot` while the children are read: it holds one
value, or it has become an array. Where the shape asks for a list of tokens the text is split at
blanks.
-/

set_option autoImplicit false

namespace SchemaBridge

/-- What decides the values of a tree. -/
structure InstanceShape where
  /-- Texts are read as scalars. -/
  readsTexts : Bool := false
  /-- Attribute values are read as scalars. -/
  readsAttributes : Bool := false
  /-- A child with this name, at this path, is an item of an array even when it is the only one. -/
  isArray : String → String → Bool := fun _ _ => false
  /-- The paths of the elements whose text is a list of tokens. -/
  listPaths : List String := []

/-- A field while its children are read. -/
inductive Slot where
  /-- The only value so far. -/
  | one (value : Json)
  /-- The items of an array. -/
  | many (values : List Json)

namespace Slot

/-- The value of a field. -/
def toJson : Slot → Json
  | .one value => value
  | .many values => .arr values

/-- The field after one more child; `isArray` says that even a single one forms an array. -/
def add (slot? : Option Slot) (isArray : Bool) (value : Json) : Slot :=
  match slot? with
  | some (.many values) => .many (values ++ [value])
  | some (.one first) => if isArray then .many [value] else .many [first, value]
  | none => if isArray then .many [value] else .one value

end Slot

namespace InstanceShape

/-- The key of the text beside attributes or children. -/
def textKey : String := "#text"

/-- A text as a value: read as a scalar where that is asked for. -/
def scalarValue (reads : Bool) (text : String) : Except Failure Json :=
  if reads then (Scalar.ofText text).map Scalar.toJson else .ok (.str text)

/-- The value of the text of an element: a list of tokens at list paths, else a scalar or the text.
An empty text stays a text. -/
def textValue (shape : InstanceShape) (path : String) (text : List Char) : Except Failure Json :=
  if shape.listPaths.contains path then
    ((Text.words text).mapM fun word => scalarValue shape.readsTexts (String.ofList word)).map .arr
  else scalarValue (shape.readsTexts && !text.isEmpty) (String.ofList text)

/-- The value of an attribute. Where values are read as scalars, blanks around them do not count. -/
def attributeValue (shape : InstanceShape) (value : String) : Except Failure Json :=
  if shape.readsAttributes then
    scalarValue true (String.ofList (Text.strip value.toList))
  else .ok (.str value)

/-- The fields of the attributes of an element. -/
def attributeSlots (shape : InstanceShape) :
    Fields Slot → List (Xml.Name × String) → Except Failure (Fields Slot)
  | slots, [] => .ok slots
  | slots, (name, value) :: rest => do
      let value ← shape.attributeValue value
      shape.attributeSlots (slots.put (Xsd.attributeMark ++ name.localName) (.one value)) rest

/-- The text of a content: its own pieces of text in order, without those of children and
references, and without blanks at the ends. -/
def ownText (content : List Xml.Content) : List Char :=
  Text.strip (content.flatMap fun piece =>
    match piece with
    | .text text => text.toList
    | .element _ | .reference _ => [])

/-- The value of an element from the fields of its attributes and children and from its text. -/
def assembled (shape : InstanceShape) (path : String) (slots : Fields Slot) (text : List Char) :
    Except Failure Json :=
  if slots.isEmpty then shape.textValue path text
  else
    let fields : Fields Json := slots.map fun slot => (slot.1, slot.2.toJson)
    if !text.isEmpty || shape.listPaths.contains path then
      (shape.textValue path text).map fun value => .obj (fields.put textKey value)
    else .ok (.obj fields)

mutual

/-- The value of an element at a path. -/
def elementValue (shape : InstanceShape) (path : String) : Xml.Element → Except Failure Json
  | ⟨_, attributes, content⟩ => do
      let slots ← shape.attributeSlots [] attributes
      let slots ← childSlots shape path slots content
      shape.assembled path slots (ownText content)

/-- The fields of attributes and children, after those of the children before. -/
def childSlots (shape : InstanceShape) (path : String) (slots : Fields Slot) :
    List Xml.Content → Except Failure (Fields Slot)
  | [] => .ok slots
  | piece :: rest => do
      let slots ← childSlot shape path slots piece
      childSlots shape path slots rest

/-- The fields after one more piece of content. -/
def childSlot (shape : InstanceShape) (path : String) (slots : Fields Slot) :
    Xml.Content → Except Failure (Fields Slot)
  | .text _ | .reference _ => .ok slots
  | .element child => do
      let name := child.name.localName
      let childPath := path ++ "." ++ name
      let value ← elementValue shape childPath child
      return slots.put name (Slot.add (slots.value? name) (shape.isArray name childPath) value)

end

/-- The value of a whole tree: an object whose only field is the root element. -/
def treeValue (shape : InstanceShape) (root : Xml.Element) : Except Failure (Fields Json) := do
  let name := root.name.localName
  return [(name, ← shape.elementValue name root)]

end InstanceShape

/-- The tree of values that a schema document is read from: every value is a text. -/
def plainTree (root : Xml.Element) : Except Failure (Fields Json) :=
  ({} : InstanceShape).treeValue root

end SchemaBridge
