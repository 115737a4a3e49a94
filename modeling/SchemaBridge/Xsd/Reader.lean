import SchemaBridge.Json.Literal
import SchemaBridge.Scalar.Reading
import SchemaBridge.Xsd.Model

/-!
# Reading declarations from a tree of values

A document arrives as nested JSON objects: child tags are keys that hold one node or a list of
nodes, attributes are keys that start with `@_`. Reading a child is always the same act
(`children`): null and the empty string stand for no node, anything but a list for one, and what is
not an object is passed over. So a single child, a list of one child and a list with text in it read
alike, and keys that no declaration knows have no effect.
-/

set_option autoImplicit false

namespace SchemaBridge.Xsd

/-- An object of the tree. -/
abbrev Node : Type := Fields Json

/-- A child value as a list of nodes. -/
def asList : Json → List Json
  | .null => []
  | .str text => if text = "" then [] else [.str text]
  | .arr items => items
  | value => [value]

namespace Node

/-- The child nodes with a tag. -/
def children (node : Node) (tag : String) : List Node :=
  (asList ((node.value? tag).getD .null)).filterMap Json.fields?

/-- The value of an attribute; values other than strings are spelled out, null is no value. -/
def attribute? (node : Node) (name : String) : Option String :=
  match node.value? (attributeMark ++ name) with
  | none | some .null => none
  | some value => some value.plain

/-- The first child node with a tag. -/
def child? (node : Node) (tag : String) : Option Node :=
  (node.children tag).head?

/-! ## Children are smaller than their parents -/

theorem sizeOf_value?_lt {node : Node} {key : String} {value : Json}
    (h : node.value? key = some value) : sizeOf value < sizeOf node := by
  have hm := List.sizeOf_lt_of_mem (Fields.mem_of_value? h)
  have hp : sizeOf value < sizeOf (key, value) := by
    simp only [Prod.mk.sizeOf_spec]
    omega
  omega

theorem sizeOf_lt_of_mem_asList {item value : Json} (h : item ∈ asList value) :
    sizeOf item ≤ sizeOf value := by
  cases value with
  | arr items =>
      have hlt : sizeOf item < sizeOf items := List.sizeOf_lt_of_mem h
      simp only [Json.arr.sizeOf_spec]
      omega
  | str text =>
      by_cases ht : text = ""
      · simp [asList, ht] at h
      · simp only [asList, ht, if_false, List.mem_singleton] at h
        exact Nat.le_of_eq (congrArg sizeOf h)
  | null => simp [asList] at h
  | bool b => simp [asList] at h; simp [h]
  | int n => simp [asList] at h; simp [h]
  | double x => simp [asList] at h; simp [h]
  | obj fields => simp [asList] at h; simp [h]

/-- A child node is smaller than its parent. -/
theorem sizeOf_lt_of_mem_children {node child : Node} {tag : String}
    (h : child ∈ node.children tag) : sizeOf child < sizeOf node := by
  obtain ⟨item, hitem, hfields⟩ := List.mem_filterMap.1 h
  have hchild : sizeOf child < sizeOf item := by
    cases item <;> simp [Json.fields?] at hfields
    subst hfields
    simp
  cases hv : node.value? tag with
  | none => simp [hv, asList] at hitem
  | some value =>
      simp only [hv, Option.getD_some] at hitem
      have h1 := sizeOf_lt_of_mem_asList hitem
      have h2 := sizeOf_value?_lt hv
      omega

/-- The children with a tag, each with the proof that it is one. -/
def attachedChildren (node : Node) (tag : String) : List { child // child ∈ node.children tag } :=
  (node.children tag).attach

end Node

/-- The occurrence bounds of a node. -/
def Occurs.ofNode (node : Node) : Occurs where
  min? := (node.attribute? "minOccurs").bind occurrenceCount?
  max? := node.attribute? "maxOccurs"

/-- The restriction written in a node. A facet that is read once takes its first node, one that is
read as a list takes every node with a value. -/
def Restriction.ofNode (node : Node) : Restriction :=
  let facet? (tag : String) : Option String := (node.child? tag).bind fun n => n.attribute? "value"
  let facets (tag : String) : List String :=
    (node.children tag).filterMap fun n => n.attribute? "value"
  { base? := node.attribute? "base"
    enumeration := facets "enumeration"
    patterns := facets "pattern"
    minInclusive? := facet? "minInclusive"
    maxInclusive? := facet? "maxInclusive"
    minExclusive? := facet? "minExclusive"
    maxExclusive? := facet? "maxExclusive"
    minLength? := facet? "minLength"
    maxLength? := facet? "maxLength"
    length? := facet? "length" }

/-- The union written in a node: its member types stand between blanks. -/
def Union.ofNode (node : Node) : Union where
  memberTypes :=
    (Text.words ((node.attribute? "memberTypes").getD "").toList).map String.ofList

mutual

/-- The list written in a node. -/
def ListType.ofNode (node : Node) : ListType :=
  { itemType? := node.attribute? "itemType"
    simpleType? := (node.attachedChildren "simpleType").head?.map fun c => SimpleType.ofNode c.1 }
termination_by sizeOf node
decreasing_by exact Node.sizeOf_lt_of_mem_children c.2

/-- The simple type written in a node. -/
def SimpleType.ofNode (node : Node) : SimpleType :=
  { name? := node.attribute? "name"
    restriction? := (node.child? "restriction").map Restriction.ofNode
    union? := (node.child? "union").map Union.ofNode
    list? := (node.attachedChildren "list").head?.map fun c => ListType.ofNode c.1 }
termination_by sizeOf node
decreasing_by exact Node.sizeOf_lt_of_mem_children c.2

end

/-- The attribute declaration written in a node. -/
def Attribute.ofNode (node : Node) : Attribute where
  name? := node.attribute? "name"
  typeName? := node.attribute? "type"
  use? := node.attribute? "use"
  simpleType? := (node.child? "simpleType").map SimpleType.ofNode

mutual

/-- The element declaration written in a node. -/
def Element.ofNode (node : Node) : Element :=
  { name? := node.attribute? "name"
    typeName? := node.attribute? "type"
    occurs := Occurs.ofNode node
    use? := node.attribute? "use"
    complexType? := (node.attachedChildren "complexType").head?.map fun c => ComplexType.ofNode c.1
    simpleType? := (node.child? "simpleType").map SimpleType.ofNode }
termination_by sizeOf node
decreasing_by exact Node.sizeOf_lt_of_mem_children c.2

/-- The complex type written in a node. Only an extension counts as simple or complex content. -/
def ComplexType.ofNode (node : Node) : ComplexType :=
  { name? := node.attribute? "name"
    sequence? := (node.attachedChildren "sequence").head?.map fun c => Sequence.ofNode c.1
    simpleContent? :=
      (node.attachedChildren "simpleContent").head?.bind fun c => Extension.ofContent? c.1
    complexContent? :=
      (node.attachedChildren "complexContent").head?.bind fun c => Extension.ofContent? c.1 }
termination_by sizeOf node
decreasing_by all_goals exact Node.sizeOf_lt_of_mem_children c.2

/-- The extension inside a content node, if there is one. -/
def Extension.ofContent? (node : Node) : Option Extension :=
  (node.attachedChildren "extension").head?.map fun c => Extension.ofNode c.1
termination_by sizeOf node
decreasing_by exact Node.sizeOf_lt_of_mem_children c.2

/-- The extension written in a node. -/
def Extension.ofNode (node : Node) : Extension :=
  { base? := node.attribute? "base"
    sequence? := (node.attachedChildren "sequence").head?.map fun c => Sequence.ofNode c.1
    attributes := (node.children "attribute").map Attribute.ofNode }
termination_by sizeOf node
decreasing_by exact Node.sizeOf_lt_of_mem_children c.2

/-- The sequence written in a node. -/
def Sequence.ofNode (node : Node) : Sequence :=
  { elements := (node.attachedChildren "element").map fun c => Element.ofNode c.1
    groups := (node.attachedChildren "group").map fun c => Group.ofNode c.1 }
termination_by sizeOf node
decreasing_by all_goals exact Node.sizeOf_lt_of_mem_children c.2

/-- The group, or the reference to one, written in a node. -/
def Group.ofNode (node : Node) : Group :=
  { name? := node.attribute? "name"
    ref? := node.attribute? "ref"
    occurs := Occurs.ofNode node
    sequence? := (node.attachedChildren "sequence").head?.map fun c => Sequence.ofNode c.1 }
termination_by sizeOf node
decreasing_by exact Node.sizeOf_lt_of_mem_children c.2

end

/-- The schema written in a node. -/
def Schema.ofNode (node : Node) : Schema where
  elements := (node.children "element").map Element.ofNode
  complexTypes := (node.children "complexType").map ComplexType.ofNode
  simpleTypes := (node.children "simpleType").map SimpleType.ofNode
  groups := (node.children "group").map Group.ofNode

/-- The document written in a tree. A root schema without attributes and children arrives as text
and declares nothing; null is no schema. -/
def Document.ofTree (tree : Node) : Document where
  schema? :=
    match tree.value? "schema" with
    | none | some .null => none
    | some value => some (Schema.ofNode (value.fields?.getD []))

end SchemaBridge.Xsd
