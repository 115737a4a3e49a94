import SchemaBridge.Instance.Reading
import SchemaBridge.Proofs.Instance.PlainValues

/-!
# Declarations read from element trees

The declarations of a schema can be read from its element tree by recursion on the tree, without the
value that the tree has: attributes by their local names, and below a declaration the structured
children of a local name (`Xml.Element.parts`), all of them where a declaration holds a list, and the
first one where it holds one thing. Everything else in the tree is ignored.

This is what a document is (`documentOfTree_eq`). The value in between may show a child as missing, as
a text, as one object or as a list of both, and it represents the element in each case
(`Represents`), so every reader finds in the node what the direct reader finds in the element
(`Represents.readsAlike`).
-/

set_option autoImplicit false

namespace SchemaBridge

/-- The first structured child with a local name. -/
def Xml.Element.part? (x : Xml.Element) (name : String) : Option Xml.Element :=
  (x.parts name).head?

/-- The structured children with a local name, each with the proof that it is one. -/
def Xml.Element.attachedParts (x : Xml.Element) (name : String) :
    List { y // y ∈ x.parts name } :=
  (x.parts name).attach

theorem Xml.Element.sizeOf_lt_of_mem_parts {x y : Xml.Element} {name : String}
    (h : y ∈ x.parts name) : sizeOf y < sizeOf x :=
  sizeOf_lt_of_mem_children (mem_children_of_mem_parts h)

namespace Xsd

/-! ## Direct readers -/

/-- The occurrence bounds of an element, the lower one as a whole number. -/
def Occurs.ofElement (x : Xml.Element) : Occurs where
  min? := (x.attribute? "minOccurs").bind occurrenceCount?
  max? := x.attribute? "maxOccurs"

/-- The values of the children with a local name that have an attribute `value`. -/
def facetsOf (x : Xml.Element) (name : String) : List String :=
  (Xml.named name x.children).filterMap fun y => y.attribute? "value"

/-- The value of the first structured child with a local name. -/
def facetOf? (x : Xml.Element) (name : String) : Option String :=
  (x.part? name).bind fun y => y.attribute? "value"

/-- The restriction of an element. -/
def Restriction.ofElement (x : Xml.Element) : Restriction where
  base? := x.attribute? "base"
  enumeration := facetsOf x "enumeration"
  patterns := facetsOf x "pattern"
  minInclusive? := facetOf? x "minInclusive"
  maxInclusive? := facetOf? x "maxInclusive"
  minExclusive? := facetOf? x "minExclusive"
  maxExclusive? := facetOf? x "maxExclusive"
  minLength? := facetOf? x "minLength"
  maxLength? := facetOf? x "maxLength"
  length? := facetOf? x "length"

/-- The union of an element: its member types are split at blanks. -/
def Union.ofElement (x : Xml.Element) : Union where
  memberTypes := (Text.words ((x.attribute? "memberTypes").getD "").toList).map String.ofList

mutual

/-- The list of an element. -/
def ListType.ofElement (x : Xml.Element) : ListType :=
  { itemType? := x.attribute? "itemType"
    simpleType? := (x.attachedParts "simpleType").head?.map fun y => SimpleType.ofElement y.1 }
termination_by sizeOf x
decreasing_by exact Xml.Element.sizeOf_lt_of_mem_parts y.2

/-- The simple type of an element. -/
def SimpleType.ofElement (x : Xml.Element) : SimpleType :=
  { name? := x.attribute? "name"
    restriction? := (x.part? "restriction").map Restriction.ofElement
    union? := (x.part? "union").map Union.ofElement
    list? := (x.attachedParts "list").head?.map fun y => ListType.ofElement y.1 }
termination_by sizeOf x
decreasing_by exact Xml.Element.sizeOf_lt_of_mem_parts y.2

end

/-- The attribute declaration of an element. -/
def Attribute.ofElement (x : Xml.Element) : Attribute where
  name? := x.attribute? "name"
  typeName? := x.attribute? "type"
  use? := x.attribute? "use"
  simpleType? := (x.part? "simpleType").map SimpleType.ofElement

mutual

/-- The element declaration of an element. -/
def Element.ofElement (x : Xml.Element) : Element :=
  { name? := x.attribute? "name"
    typeName? := x.attribute? "type"
    occurs := Occurs.ofElement x
    use? := x.attribute? "use"
    complexType? := (x.attachedParts "complexType").head?.map fun y => ComplexType.ofElement y.1
    simpleType? := (x.part? "simpleType").map SimpleType.ofElement }
termination_by sizeOf x
decreasing_by exact Xml.Element.sizeOf_lt_of_mem_parts y.2

/-- The complex type of an element. -/
def ComplexType.ofElement (x : Xml.Element) : ComplexType :=
  { name? := x.attribute? "name"
    sequence? := (x.attachedParts "sequence").head?.map fun y => Sequence.ofElement y.1
    simpleContent? :=
      (x.attachedParts "simpleContent").head?.bind fun y => Extension.ofContentElement? y.1
    complexContent? :=
      (x.attachedParts "complexContent").head?.bind fun y => Extension.ofContentElement? y.1 }
termination_by sizeOf x
decreasing_by all_goals exact Xml.Element.sizeOf_lt_of_mem_parts y.2

/-- The extension in the simple or complex content of a type. -/
def Extension.ofContentElement? (x : Xml.Element) : Option Extension :=
  (x.attachedParts "extension").head?.map fun y => Extension.ofElement y.1
termination_by sizeOf x
decreasing_by exact Xml.Element.sizeOf_lt_of_mem_parts y.2

/-- The extension of an element. -/
def Extension.ofElement (x : Xml.Element) : Extension :=
  { base? := x.attribute? "base"
    sequence? := (x.attachedParts "sequence").head?.map fun y => Sequence.ofElement y.1
    attributes := (x.parts "attribute").map Attribute.ofElement }
termination_by sizeOf x
decreasing_by exact Xml.Element.sizeOf_lt_of_mem_parts y.2

/-- The sequence of an element. -/
def Sequence.ofElement (x : Xml.Element) : Sequence :=
  { elements := (x.attachedParts "element").map fun y => Element.ofElement y.1
    groups := (x.attachedParts "group").map fun y => Group.ofElement y.1 }
termination_by sizeOf x
decreasing_by all_goals exact Xml.Element.sizeOf_lt_of_mem_parts y.2

/-- The group, or the reference to one, of an element. -/
def Group.ofElement (x : Xml.Element) : Group :=
  { name? := x.attribute? "name"
    ref? := x.attribute? "ref"
    occurs := Occurs.ofElement x
    sequence? := (x.attachedParts "sequence").head?.map fun y => Sequence.ofElement y.1 }
termination_by sizeOf x
decreasing_by exact Xml.Element.sizeOf_lt_of_mem_parts y.2

end

/-- The schema of an element. -/
def Schema.ofElement (x : Xml.Element) : Schema where
  elements := (x.parts "element").map Element.ofElement
  complexTypes := (x.parts "complexType").map ComplexType.ofElement
  simpleTypes := (x.parts "simpleType").map SimpleType.ofElement
  groups := (x.parts "group").map Group.ofElement

/-- The document of a root element: a schema when that is its local name. -/
def Document.ofElement (root : Xml.Element) : Document where
  schema? := if root.name.localName = "schema" then some (Schema.ofElement root) else none

/-! ## Readers without proofs of membership -/

section Attached

variable {α : Type} (node : Node) (x : Xml.Element) (name : String)

theorem map_attachedChildren (f : Node → α) :
    ((node.attachedChildren name).map fun c => f c.1) = (node.children name).map f :=
  List.attach_map_val ..

theorem map_attachedParts (f : Xml.Element → α) :
    ((x.attachedParts name).map fun y => f y.1) = (x.parts name).map f :=
  List.attach_map_val ..

theorem head?_attachedChildren :
    (node.attachedChildren name).head?.map (fun c => c.1) = node.child? name := by
  rw [← List.head?_map, map_attachedChildren node name fun n => n, List.map_id']
  rfl

theorem head?_attachedParts :
    (x.attachedParts name).head?.map (fun y => y.1) = x.part? name := by
  rw [← List.head?_map, map_attachedParts x name fun y => y, List.map_id']
  rfl

theorem map_head?_attachedChildren (f : Node → α) :
    ((node.attachedChildren name).head?.map fun c => f c.1) = (node.child? name).map f := by
  rw [← head?_attachedChildren, Option.map_map]
  rfl

theorem map_head?_attachedParts (f : Xml.Element → α) :
    ((x.attachedParts name).head?.map fun y => f y.1) = (x.part? name).map f := by
  rw [← head?_attachedParts, Option.map_map]
  rfl

theorem bind_head?_attachedChildren (f : Node → Option α) :
    ((node.attachedChildren name).head?.bind fun c => f c.1) = (node.child? name).bind f := by
  rw [← head?_attachedChildren, Option.bind_map]
  rfl

theorem bind_head?_attachedParts (f : Xml.Element → Option α) :
    ((x.attachedParts name).head?.bind fun y => f y.1) = (x.part? name).bind f := by
  rw [← head?_attachedParts, Option.bind_map]
  rfl

end Attached

/-! ## Agreement of the readers -/

section Agreement

variable {x : Xml.Element} {node : Node}

theorem Represents.attribute? (h : Represents x node) (name : String) :
    node.attribute? name = x.attribute? name := by
  cases h with
  | intro attributes _ => exact attributes name

theorem Represents.children (h : Represents x node) {tag : String} (htag : IsElementKey tag) :
    List.Forall₂ Represents (x.parts tag) (node.children tag) := by
  cases h with
  | intro _ children => exact children tag htag

/-- Structured children and their nodes, pairwise, of which a relation holds. -/
def PartsAlike (S : Xml.Element → Node → Prop) (x : Xml.Element) (node : Node) (tag : String) :
    Prop :=
  List.Forall₂ S (x.parts tag) (node.children tag)

section PartsAlike

variable {S : Xml.Element → Node → Prop} {tag : String} {α : Type} {f : Xml.Element → α}
  {g : Node → α}

theorem PartsAlike.map_eq (h : PartsAlike S x node tag) (hread : ∀ y n, S y n → g n = f y) :
    (node.children tag).map g = (x.parts tag).map f := by
  unfold PartsAlike at h
  generalize x.parts tag = parts at h
  generalize node.children tag = nodes at h
  induction h with
  | nil => rfl
  | cons hfirst _ ih => rw [List.map_cons, List.map_cons, hread _ _ hfirst, ih]

theorem PartsAlike.filterMap_eq {f : Xml.Element → Option α} {g : Node → Option α}
    (h : PartsAlike S x node tag) (hread : ∀ y n, S y n → g n = f y) :
    (node.children tag).filterMap g = (x.parts tag).filterMap f := by
  have hmap := congrArg (List.filterMap id) (h.map_eq hread)
  rwa [List.filterMap_map, List.filterMap_map] at hmap

theorem PartsAlike.map_first_eq (h : PartsAlike S x node tag)
    (hread : ∀ y n, S y n → g n = f y) : (node.child? tag).map g = (x.part? tag).map f := by
  rw [Node.child?, Xml.Element.part?, ← List.head?_map, ← List.head?_map, h.map_eq hread]

theorem PartsAlike.bind_first_eq {f : Xml.Element → Option α} {g : Node → Option α}
    (h : PartsAlike S x node tag) (hread : ∀ y n, S y n → g n = f y) :
    (node.child? tag).bind g = (x.part? tag).bind f := by
  have hmap := congrArg (fun read? => Option.bind read? id) (h.map_first_eq hread)
  simpa only [Option.bind_map, Function.id_comp] using hmap

end PartsAlike

/-- A child with an attribute is structured. -/
theorem isStructured_of_attribute? {name value : String} (h : x.attribute? name = some value) :
    x.isStructured = true := by
  rw [Xml.Element.isStructured_iff]
  refine Or.inl fun hnil => ?_
  rw [Xml.Element.attribute?, hnil] at h
  cases h

theorem facetsOf_eq (x : Xml.Element) (name : String) :
    facetsOf x name = (x.parts name).filterMap fun y => y.attribute? "value" := by
  rw [facetsOf, Xml.Element.parts, List.filterMap_filter]
  refine List.filterMap_congr fun y _ => ?_
  cases h : y.attribute? "value" with
  | none => simp
  | some value => rw [isStructured_of_attribute? h, if_pos rfl]

namespace Represents

variable (h : Represents x node)
include h

theorem occurs : Occurs.ofNode node = Occurs.ofElement x := by
  rw [Occurs.ofNode, Occurs.ofElement, h.attribute?, h.attribute?]

theorem union : Union.ofNode node = Union.ofElement x := by
  rw [Union.ofNode, Union.ofElement, h.attribute?]

theorem facets (tag : String) (htag : IsElementKey tag) :
    ((node.children tag).filterMap fun n => n.attribute? "value") = facetsOf x tag := by
  rw [facetsOf_eq]
  exact PartsAlike.filterMap_eq (h.children htag) fun _ _ hn => hn.attribute? "value"

theorem facet? (tag : String) (htag : IsElementKey tag) :
    ((node.child? tag).bind fun n => n.attribute? "value") = facetOf? x tag :=
  PartsAlike.bind_first_eq (h.children htag) fun _ _ hn => hn.attribute? "value"

theorem restriction : Restriction.ofNode node = Restriction.ofElement x := by
  simp only [Restriction.ofNode, Restriction.ofElement, h.attribute?,
    h.facets "enumeration" (by decide), h.facets "pattern" (by decide),
    h.facet? "minInclusive" (by decide), h.facet? "maxInclusive" (by decide),
    h.facet? "minExclusive" (by decide), h.facet? "maxExclusive" (by decide),
    h.facet? "minLength" (by decide), h.facet? "maxLength" (by decide),
    h.facet? "length" (by decide)]

end Represents

/-- What every reader of declarations reads from a node, the direct one reads from an element. -/
structure ReadsAlike (x : Xml.Element) (node : Node) : Prop where
  list : ListType.ofNode node = ListType.ofElement x
  simpleType : SimpleType.ofNode node = SimpleType.ofElement x
  element : Element.ofNode node = Element.ofElement x
  complexType : ComplexType.ofNode node = ComplexType.ofElement x
  content : Extension.ofContent? node = Extension.ofContentElement? x
  extension : Extension.ofNode node = Extension.ofElement x
  sequence : Sequence.ofNode node = Sequence.ofElement x
  group : Group.ofNode node = Group.ofElement x

/-- Attribute declarations are no part of each other, so they are read after simple types. -/
theorem Represents.attributeDeclaration (h : Represents x node)
    (hparts : ∀ tag, IsElementKey tag → PartsAlike ReadsAlike x node tag) :
    Attribute.ofNode node = Attribute.ofElement x := by
  rw [Attribute.ofNode, Attribute.ofElement, h.attribute?, h.attribute?, h.attribute?,
    (hparts "simpleType" (by decide)).map_first_eq fun _ _ hn => hn.simpleType]

/-- The readers agree on an element when they agree on its structured children. -/
theorem Represents.readsAlike_of_parts (h : Represents x node)
    (hparts : ∀ tag, IsElementKey tag → PartsAlike ReadsAlike x node tag)
    (hattributes : (node.children "attribute").map Attribute.ofNode =
      (x.parts "attribute").map Attribute.ofElement) : ReadsAlike x node where
  list := by
    rw [ListType.ofNode, ListType.ofElement, map_head?_attachedChildren, map_head?_attachedParts,
      h.attribute?, (hparts "simpleType" (by decide)).map_first_eq fun _ _ hn => hn.simpleType]
  simpleType := by
    rw [SimpleType.ofNode, SimpleType.ofElement, map_head?_attachedChildren,
      map_head?_attachedParts, h.attribute?,
      PartsAlike.map_first_eq (h.children (by decide)) fun _ _ hn => hn.restriction,
      PartsAlike.map_first_eq (h.children (by decide)) fun _ _ hn => hn.union,
      (hparts "list" (by decide)).map_first_eq fun _ _ hn => hn.list]
  element := by
    rw [Element.ofNode, Element.ofElement, map_head?_attachedChildren, map_head?_attachedParts,
      h.attribute?, h.attribute?, h.attribute?, h.occurs,
      (hparts "complexType" (by decide)).map_first_eq fun _ _ hn => hn.complexType,
      (hparts "simpleType" (by decide)).map_first_eq fun _ _ hn => hn.simpleType]
  complexType := by
    rw [ComplexType.ofNode, ComplexType.ofElement, map_head?_attachedChildren,
      map_head?_attachedParts, bind_head?_attachedChildren, bind_head?_attachedChildren,
      bind_head?_attachedParts, bind_head?_attachedParts, h.attribute?,
      (hparts "sequence" (by decide)).map_first_eq fun _ _ hn => hn.sequence,
      (hparts "simpleContent" (by decide)).bind_first_eq fun _ _ hn => hn.content,
      (hparts "complexContent" (by decide)).bind_first_eq fun _ _ hn => hn.content]
  content := by
    rw [Extension.ofContent?, Extension.ofContentElement?, map_head?_attachedChildren,
      map_head?_attachedParts,
      (hparts "extension" (by decide)).map_first_eq fun _ _ hn => hn.extension]
  extension := by
    rw [Extension.ofNode, Extension.ofElement, map_head?_attachedChildren, map_head?_attachedParts,
      h.attribute?, (hparts "sequence" (by decide)).map_first_eq fun _ _ hn => hn.sequence,
      hattributes]
  sequence := by
    rw [Sequence.ofNode, Sequence.ofElement, map_attachedChildren, map_attachedChildren,
      map_attachedParts, map_attachedParts,
      (hparts "element" (by decide)).map_eq fun _ _ hn => hn.element,
      (hparts "group" (by decide)).map_eq fun _ _ hn => hn.group]
  group := by
    rw [Group.ofNode, Group.ofElement, map_head?_attachedChildren, map_head?_attachedParts,
      h.attribute?, h.attribute?, h.occurs,
      (hparts "sequence" (by decide)).map_first_eq fun _ _ hn => hn.sequence]

/-- **Every reader reads the same from a node and from the element that it represents.** -/
theorem Represents.readsAlike (x : Xml.Element) (node : Node) (h : Represents x node) :
    ReadsAlike x node ∧ Attribute.ofNode node = Attribute.ofElement x := by
  -- The induction is on the element; its structured children are smaller.
  have hbelow : ∀ tag, IsElementKey tag →
      PartsAlike (fun y n => ReadsAlike y n ∧ Attribute.ofNode n = Attribute.ofElement y) x node
        tag := by
    intro tag htag
    refine ((List.forall₂_and_left _ _).2 ⟨fun y hy => hy, h.children htag⟩).imp fun y n hy => ?_
    have hsmaller := Xml.Element.sizeOf_lt_of_mem_parts hy.1
    exact Represents.readsAlike y n hy.2
  have hparts : ∀ tag, IsElementKey tag → PartsAlike ReadsAlike x node tag :=
    fun tag htag => (hbelow tag htag).imp fun _ _ hn => hn.1
  exact ⟨h.readsAlike_of_parts hparts
    ((hbelow "attribute" (by decide)).map_eq fun _ _ hn => hn.2), h.attributeDeclaration hparts⟩
termination_by sizeOf x

theorem Represents.schema (h : Represents x node) : Schema.ofNode node = Schema.ofElement x := by
  have hparts : ∀ tag, IsElementKey tag → PartsAlike ReadsAlike x node tag :=
    fun tag htag => (h.children htag).imp fun _ _ hn => hn.readsAlike.1
  rw [Schema.ofNode, Schema.ofElement,
    (hparts "element" (by decide)).map_eq fun _ _ hn => hn.element,
    (hparts "complexType" (by decide)).map_eq fun _ _ hn => hn.complexType,
    (hparts "simpleType" (by decide)).map_eq fun _ _ hn => hn.simpleType,
    (hparts "group" (by decide)).map_eq fun _ _ hn => hn.group]

end Agreement

/-! ## Documents -/

/-- **A document is what a direct reading of its element tree says**, and reading it never fails. -/
theorem documentOfTree_eq {root : Xml.Element} (hnames : root.NamesUnmarked) :
    documentOfTree root = .ok (Document.ofElement root) := by
  obtain ⟨value, hvalue⟩ := InstanceShape.exists_plain_value root.name.localName root
  have hrepresents := represents_nodeOf root hnames hvalue
  have hform : ∀ v, InstanceShape.plain.elementValue root.name.localName root = .ok v →
      v ≠ .null := by
    rintro v hv rfl
    cases hstructured : root.isStructured with
    | false =>
        obtain ⟨text, htext⟩ := InstanceShape.exists_str_of_plain_value hv hstructured
        cases htext
    | true =>
        obtain ⟨fields, hfields, -⟩ := InstanceShape.exists_plain_fields hv hstructured
        cases hfields
  have htree : plainTree root = .ok [(root.name.localName, value)] := by
    show InstanceShape.plain.treeValue root = _
    simp only [InstanceShape.treeValue, hvalue, bind, Except.bind, pure, Except.pure]
  rw [documentOfTree, htree, Except.map, Document.ofTree, Document.ofElement, Fields.value?]
  by_cases hschema : root.name.localName = "schema"
  · rw [if_pos hschema, if_pos hschema, ← hrepresents.schema]
    cases value with
    | null => exact absurd rfl (hform _ hvalue)
    | _ => rfl
  · rw [if_neg hschema, if_neg hschema]
    rfl

/-- The declaration of an amount, with two attributes of one local name. -/
def amountDeclaration : Xml.Element :=
  { name := { localPart := "element" }
    attributes := [({ localPart := "name" }, "total"), ({ localPart := "type" }, "xs:decimal"),
      ({ space? := some "urn:labels", localPart := "name" }, "amount")] }

/-- A declaration with nothing in it. -/
def emptyDeclaration : Xml.Element := { name := { localPart := "element" } }

/-- A group that is a text. -/
def groupText : Xml.Element := { name := { localPart := "group" }, content := [.text "none"] }

/-- A schema with these three. -/
def amountRoot : Xml.Element :=
  { name := { localPart := "schema" }
    content := [.text "\n", .element emptyDeclaration, .element amountDeclaration,
      .element groupText] }

theorem amountRoot_namesUnmarked : amountRoot.NamesUnmarked := by
  have hleaf : ∀ {x y : Xml.Element}, x.children = [] → x.Contains y → y = x := by
    intro x y hnil h
    cases h with
    | self => rfl
    | child hy =>
        rw [hnil] at hy
        cases hy
  have hchildren : ∀ y ∈ amountRoot.children, y.children = [] ∧ ¬ IsMarked y.name.localName := by
    intro y hy
    have hlist : amountRoot.children = [emptyDeclaration, amountDeclaration, groupText] := rfl
    rw [hlist] at hy
    simp only [List.mem_cons, List.not_mem_nil, or_false] at hy
    rcases hy with rfl | rfl | rfl <;> exact ⟨rfl, by decide⟩
  intro x hx
  cases hx with
  | self => decide
  | child hy h =>
      rw [hleaf (hchildren _ hy).1 h]
      exact (hchildren _ hy).2

/-- The last name counts, and neither the empty declaration nor the text is one. -/
theorem documentOfTree_amountRoot :
    amountRoot.NamesUnmarked ∧ documentOfTree amountRoot =
      .ok { schema? := some { elements :=
        [{ name? := some "amount", typeName? := some "xs:decimal" }] } } := by
  refine ⟨amountRoot_namesUnmarked, ?_⟩
  have hdeclaration : Element.ofElement amountDeclaration =
      { name? := some "amount", typeName? := some "xs:decimal" } := by
    rw [Element.ofElement, map_head?_attachedParts]
    rfl
  have hread : Document.ofElement amountRoot =
      { schema? := some { elements := [Element.ofElement amountDeclaration] } } := rfl
  rw [documentOfTree_eq amountRoot_namesUnmarked, hread, hdeclaration]

end Xsd

end SchemaBridge
