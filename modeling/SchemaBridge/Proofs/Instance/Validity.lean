import SchemaBridge.Instance.Reading
import SchemaBridge.Proofs.Instance.Values
import SchemaBridge.Proofs.JsonSchema.TextSchemas
import SchemaBridge.Proofs.Paths.Unique
import SchemaBridge.Proofs.Xsd.Includes

/-!
# Valid instance documents

The declarations of a schema describe the elements of an instance document by their names: a
top-level element describes the root, and the members of the content of an element describe the
children of an element that it describes (`Schema.Describes`). An instance is valid when each of its
described elements meets its declaration (`Schema.Accepts`): its children are declared ones in the
numbers that the declarations ask for, the required attributes are present, and an element of a
simple type is text only.

A described element lies at the end of a chain of declarations, and where paths belong to one element
each that chain decides whether its values form an array. So the field of a child name in the value of
a valid element is a list where the conversion writes an array, and a single value where it does not
(`exists_values_of_member`).
-/

set_option autoImplicit false

namespace SchemaBridge

open Xsd

namespace Xsd

/-- A number of elements keeps to an upper bound; a bound that is no number is none. -/
def Occurs.Allows (occurs : Occurs) (count : Nat) : Prop :=
  match occurs.max? with
  | none => count ≤ 1
  | some text => ∀ bound, occurrenceCount? text = some bound → (count : Int) ≤ bound

/-- An element of an instance meets a declaration. A group that does not repeat stands once. -/
structure Element.Accepts (registry : Registry) (element : Element) (x : Xml.Element) : Prop where
  /-- An element with a complex type has declared children only. -/
  declared : ∀ type, element.Includes registry type → ∀ y ∈ x.children,
    ∃ m ∈ element.contentMembers registry {},
      nonempty? m.element.name? = some y.name.localName
  /-- A declared child is present, unless it may be missing or stands in a group that may. -/
  present : ∀ m ∈ element.contentMembers registry {}, ∀ name,
    nonempty? m.element.name? = some name → m.optional = false →
    m.element.occurs.isOptional = false → Xml.named name x.children ≠ []
  /-- A declared child keeps to its upper bound, unless it stands in a group that repeats. -/
  bounded : ∀ m ∈ element.contentMembers registry {}, ∀ name,
    nonempty? m.element.name? = some name → m.repeats = false →
    m.element.occurs.Allows (Xml.named name x.children).length
  attributes : ∀ type extension declaration name, element.Includes registry type →
    type.Extends extension → declaration ∈ extension.attributes → declaration.isRequired = true →
    nonempty? declaration.name? = some name → ∃ a ∈ x.attributes, a.1.localName = name
  /-- An element of an inline simple type is text only. -/
  text : element.simpleType?.isSome → x.attributes = [] ∧ x.children = []

/-- A schema describes an element of an instance by a declaration, along a path of names. -/
inductive Schema.Describes (schema : Schema) (root : Xml.Element) :
    List String → Element → Xml.Element → Prop where
  | root {element : Element} (h : element ∈ schema.elements)
      (hname : nonempty? element.name? = some root.name.localName) :
      Describes schema root [root.name.localName] element root
  | child {path : List String} {outer : Element} {x y : Xml.Element} {m : Member} {name : String}
      (houter : Describes schema root path outer x)
      (hm : m ∈ outer.contentMembers (Registry.ofSchema schema) {})
      (hname : nonempty? m.element.name? = some name) (hy : y ∈ Xml.named name x.children) :
      Describes schema root (path ++ [name]) m.element y

/-- An instance is valid for a schema. -/
structure Schema.Accepts (schema : Schema) (root : Xml.Element) : Prop where
  declared : ∃ element ∈ schema.elements, nonempty? element.name? = some root.name.localName
  elements : ∀ path element x, schema.Describes root path element x →
    element.Accepts (Registry.ofSchema schema) x

/-- A schema whose declarations say one thing each, whose contents do not go round in circles, whose
paths belong to one element each, which has simple types for texts, and whose elements occur once or
without bound. -/
structure Schema.Orderly (schema : Schema) : Prop where
  regular : schema.Regular
  acyclic : schema.Acyclic
  paths_distinct : schema.PathsDistinct
  texts_simple : schema.TextsSimple
  bounds : ∀ element, schema.Contains (.element element) →
    element.occurs.max? ∈ [none, some "1", some "unbounded"]

section Describes

variable {schema : Schema} {root x : Xml.Element} {path : List String} {element : Element}

theorem Schema.Describes.path_ne_nil (h : schema.Describes root path element x) : path ≠ [] := by
  cases h with
  | root => exact List.cons_ne_nil _ _
  | child => exact List.append_ne_nil_of_right_ne_nil _ (List.cons_ne_nil _ _)

/-- A member of an element's content continues every chain to the element. -/
theorem exists_next_of_mem_contentMembers {entries : List Entry} {inSequence repeats : Bool}
    (h : DeclaredChain (Registry.ofSchema schema) schema path entries element inSequence repeats)
    {m : Member} (hm : m ∈ element.contentMembers (Registry.ofSchema schema) {}) {name : String}
    (hname : nonempty? m.element.name? = some name) :
    ∃ all, DeclaredChain (Registry.ofSchema schema) schema (path ++ [name]) all m.element true
      m.repeats := by
  obtain ⟨below, hdecl, -, -⟩ := Element.mem_contentMembers_iff.1 ⟨m.optional, hm⟩
  exact ⟨_, h.next hdecl hname⟩

/-- **A described element lies at the end of a chain of declarations.** -/
theorem Schema.Describes.exists_chain (h : schema.Describes root path element x) :
    ∃ entries inSequence repeats,
      DeclaredChain (Registry.ofSchema schema) schema path entries element inSequence repeats := by
  induction h with
  | root h hname => exact ⟨[], false, false, .root h hname⟩
  | child _ hm hname _ ih =>
      obtain ⟨entries, inSequence, repeats, hchain⟩ := ih
      obtain ⟨all, hnext⟩ := exists_next_of_mem_contentMembers hchain hm hname
      exact ⟨all, true, _, hnext⟩

theorem Schema.Describes.contains (h : schema.Describes root path element x) :
    schema.Contains (.element element) := by
  obtain ⟨entries, inSequence, repeats, hchain⟩ := h.exists_chain
  exact hchain.contains

end Describes

end Xsd

/-! ## A basket with an empty item and an empty label -/

namespace Xsd.Document

/-- The type of labels: a text, and the language it is in. -/
def labelType : ComplexType :=
  { name? := some "Label"
    simpleContent? := some
      { base? := some "xs:string"
        attributes := [{ name? := some "lang", typeName? := some "xs:string" }] } }

/-- The label of an item, which may be missing. -/
def labelElement : Element :=
  { name? := some "label", typeName? := some "Label", occurs := { min? := some 0 } }

/-- The type of items: a label or nothing. -/
def itemType : ComplexType :=
  { name? := some "Item", sequence? := some { elements := [labelElement] } }

/-- Any number of items. -/
def itemElement : Element :=
  { name? := some "item", typeName? := some "Item", occurs := { max? := some "unbounded" } }

/-- The type of the basket. -/
def basketType : ComplexType := { sequence? := some { elements := [itemElement] } }

/-- A basket of items. -/
def basketElement : Element := { name? := some "basket", complexType? := some basketType }

/-- A schema of baskets. -/
def basketSchema : Schema := { elements := [basketElement], complexTypes := [itemType, labelType] }

/-- A document with that schema. -/
def basketDocument : Document := { schema? := some basketSchema }

/-- An empty item. -/
def emptyItem : Xml.Element := { name := { localPart := "item" } }

/-- A label in a language, without text. -/
def basketLabel : Xml.Element :=
  { name := { localPart := "label" }, attributes := [({ localPart := "lang" }, "en")] }

/-- An item with the label. -/
def labelledItem : Xml.Element :=
  { name := { localPart := "item" }, content := [.element basketLabel] }

/-- A basket with both items. -/
def basketRoot : Xml.Element :=
  { name := { localPart := "basket" }, content := [.element emptyItem, .element labelledItem] }

theorem eq_of_basketSchema_contains {component : Component}
    (h : basketSchema.Contains component) :
    component = .element basketElement ∨ component = .complexType basketType ∨
      component = .complexType itemType ∨ component = .complexType labelType ∨
      component = .sequence { elements := [itemElement] } ∨
      component = .sequence { elements := [labelElement] } ∨
      component = .element itemElement ∨ component = .element labelElement := by
  induction h with
  | element helement =>
      rw [List.mem_singleton.1 helement]
      simp
  | complexType htype => rcases List.mem_pair.1 htype with rfl | rfl <;> simp
  | group hgroup => cases hgroup
  | inline _ htype ih =>
      rcases ih with h | h | h | h | h | h | h | h <;> cases h <;> cases htype
      simp
  | own _ hsequence ih =>
      rcases ih with h | h | h | h | h | h | h | h <;> cases h <;> cases hsequence <;> simp
  | extension _ hextension _ ih =>
      rcases ih with h | h | h | h | h | h | h | h <;> cases h <;> cases hextension
  | member _ helement ih =>
      rcases ih with h | h | h | h | h | h | h | h <;> cases h <;>
        rw [List.mem_singleton.1 helement] <;> simp

theorem basketSchema_regular : basketSchema.Regular where
  one_content type h := by
    rcases eq_of_basketSchema_contains h with h | h | h | h | h | h | h | h <;> cases h <;> decide
  inline_unnamed element type h htype := by
    rcases eq_of_basketSchema_contains h with h | h | h | h | h | h | h | h <;> cases h <;> cases htype
    rfl
  one_type element h := by
    rcases eq_of_basketSchema_contains h with h | h | h | h | h | h | h | h <;> cases h <;> decide
  members_distinct type sequence h hsequence := by
    rcases eq_of_basketSchema_contains h with h | h | h | h | h | h | h | h <;> cases h <;>
      cases hsequence <;> rw [Sequence.members_of_groups_eq_nil rfl] <;> decide
  roots_distinct := by decide
  not_builtin type h name hname := by
    rcases List.mem_pair.1 h with rfl | rfl <;> cases hname <;> decide

theorem basketElement_declares {inner : Element} {entries : List Entry} {repeats : Bool}
    (h : basketElement.Declares (Registry.ofSchema basketSchema) entries repeats inner) :
    inner = itemElement ∧ entries = [] := by
  obtain ⟨hmem, rfl, -⟩ := h.of_plain rfl rfl rfl rfl
  exact ⟨List.mem_singleton.1 hmem, rfl⟩

theorem itemElement_declares {inner : Element} {entries : List Entry} {repeats : Bool}
    (h : itemElement.Declares (Registry.ofSchema basketSchema) entries repeats inner) :
    inner = labelElement ∧ entries = [(.complexType, "Item")] := by
  cases h with
  | inline htype => cases htype
  | named _ hname htype hdecl =>
      cases hname
      cases htype
      obtain ⟨hmem, rfl, -⟩ := hdecl.of_plain rfl rfl rfl
      exact ⟨List.mem_singleton.1 hmem, rfl⟩

theorem not_labelElement_declares {inner : Element} {entries : List Entry} {repeats : Bool} :
    ¬ labelElement.Declares (Registry.ofSchema basketSchema) entries repeats inner := by
  intro h
  cases h with
  | inline htype => cases htype
  | named _ hname htype hdecl =>
      cases hname
      cases htype
      exact ComplexType.not_declares rfl rfl hdecl

/-- The chains of the schema: a type is entered on the way to a label only. -/
theorem eq_of_basketSchema_chain {path : List String} {entries : List Entry} {element : Element}
    {inSequence repeats : Bool}
    (h : DeclaredChain (Registry.ofSchema basketSchema) basketSchema path entries element inSequence
      repeats) :
    (element = basketElement ∧ entries = []) ∨ (element = itemElement ∧ entries = []) ∨
      (element = labelElement ∧ entries = [(.complexType, "Item")]) := by
  induction h with
  | root helement => exact Or.inl ⟨List.mem_singleton.1 helement, rfl⟩
  | next _ hdecl _ ih =>
      rcases ih with ⟨rfl, rfl⟩ | ⟨rfl, rfl⟩ | ⟨rfl, rfl⟩
      · obtain ⟨rfl, rfl⟩ := basketElement_declares hdecl
        exact Or.inr (Or.inl ⟨rfl, rfl⟩)
      · obtain ⟨rfl, rfl⟩ := itemElement_declares hdecl
        exact Or.inr (Or.inr ⟨rfl, rfl⟩)
      · exact absurd hdecl not_labelElement_declares

theorem contentMembers_basketElement :
    basketElement.contentMembers (Registry.ofSchema basketSchema) {} =
      [⟨itemElement, {}, false, false⟩] := by
  have hentered : basketElement.contentMembers (Registry.ofSchema basketSchema) {} =
      basketType.enteredMembers (Registry.ofSchema basketSchema) {} := rfl
  rw [hentered, ComplexType.enteredMembers_eq]
  simp only [basketType, Sequence.optionalMembers, Sequence.members_of_groups_eq_nil]
  rfl

theorem contentMembers_itemElement :
    itemElement.contentMembers (Registry.ofSchema basketSchema) {} =
      [⟨labelElement, ({} : OpenNames).push .complexType "Item", false, false⟩] := by
  have hentered : itemElement.contentMembers (Registry.ofSchema basketSchema) {} =
      itemType.enteredMembers (Registry.ofSchema basketSchema)
        (({} : OpenNames).push .complexType "Item") := rfl
  rw [hentered, ComplexType.enteredMembers_eq]
  simp only [itemType, Sequence.optionalMembers, Sequence.members_of_groups_eq_nil]
  rfl

theorem contentMembers_labelElement :
    labelElement.contentMembers (Registry.ofSchema basketSchema) {} = [] := by
  have hentered : labelElement.contentMembers (Registry.ofSchema basketSchema) {} =
      labelType.enteredMembers (Registry.ofSchema basketSchema)
        (({} : OpenNames).push .complexType "Label") := rfl
  rw [hentered, ComplexType.enteredMembers_eq]
  rfl

theorem not_basketSchema_containsSimple (type : SimpleType) :
    ¬ basketSchema.ContainsSimple type := by
  intro h
  induction h with
  | top htype => cases htype
  | inline helement htype =>
      rcases eq_of_basketSchema_contains helement with h | h | h | h | h | h | h | h <;> cases h <;>
        cases htype
  | items _ _ _ ih => exact ih

/-- The only type that extends another is that of labels, and it asks for no attribute. -/
theorem of_basketSchema_extends {type : ComplexType} {extension : Extension}
    (htype : basketSchema.Contains (.complexType type)) (hextension : type.Extends extension) :
    type = labelType ∧ ∀ declaration ∈ extension.attributes,
      declaration.isRequired = false ∧ declaration.typeName? = some "xs:string" := by
  rcases eq_of_basketSchema_contains htype with h | h | h | h | h | h | h | h <;> cases h <;>
    rcases hextension with h | h <;> cases h
  refine ⟨rfl, fun declaration hdeclaration => ?_⟩
  rw [List.mem_singleton.1 hdeclaration]
  exact ⟨rfl, rfl⟩

theorem basketSchema_orderly : basketSchema.Orderly where
  regular := basketSchema_regular
  acyclic path entries element inSequence repeats h := by
    rcases eq_of_basketSchema_chain h with ⟨-, rfl⟩ | ⟨-, rfl⟩ | ⟨-, rfl⟩ <;> decide
  paths_distinct := by
    apply Schema.PathsDistinct.of_no_points
    · intro element h
      rcases eq_of_basketSchema_contains h with h | h | h | h | h | h | h | h <;> cases h
      · rw [contentMembers_basketElement]
        decide
      · rw [contentMembers_itemElement]
        decide
      · rw [contentMembers_labelElement]
        decide
    · intro element h name hname
      rcases eq_of_basketSchema_contains h with h | h | h | h | h | h | h | h <;> cases h <;>
        cases hname <;> decide
  texts_simple name h := by
    cases h with
    | attributeType htype hextension hdeclaration hname =>
        rw [((of_basketSchema_extends htype hextension).2 _ hdeclaration).2] at hname
        cases hname
        rfl
    | item htype => exact absurd htype (not_basketSchema_containsSimple _)
    | base htype hshape =>
        obtain ⟨rfl, -⟩ :=
          of_basketSchema_extends htype (extends_of_contentShape (Or.inr hshape)).1
        cases hshape
        rfl
  bounds element h := by
    rcases eq_of_basketSchema_contains h with h | h | h | h | h | h | h | h <;> cases h <;> decide

theorem eq_of_basketSchema_describes {path : List String} {element : Element} {x : Xml.Element}
    (h : basketSchema.Describes basketRoot path element x) :
    (element = basketElement ∧ x = basketRoot) ∨ (element = itemElement ∧ x = emptyItem) ∨
      (element = itemElement ∧ x = labelledItem) ∨ (element = labelElement ∧ x = basketLabel) := by
  induction h with
  | root helement => exact Or.inl ⟨List.mem_singleton.1 helement, rfl⟩
  | child _ hm hname hy ih =>
      rcases ih with ⟨rfl, rfl⟩ | ⟨rfl, rfl⟩ | ⟨rfl, rfl⟩ | ⟨rfl, rfl⟩
      · rw [contentMembers_basketElement, List.mem_singleton] at hm
        subst hm
        cases hname
        have hitems : Xml.named "item" basketRoot.children = [emptyItem, labelledItem] := rfl
        rw [hitems] at hy
        rcases List.mem_pair.1 hy with rfl | rfl
        · exact Or.inr (Or.inl ⟨rfl, rfl⟩)
        · exact Or.inr (Or.inr (Or.inl ⟨rfl, rfl⟩))
      · cases hy
      · rw [contentMembers_itemElement, List.mem_singleton] at hm
        subst hm
        cases hname
        have hlabels : Xml.named "label" labelledItem.children = [basketLabel] := rfl
        rw [hlabels, List.mem_singleton] at hy
        exact Or.inr (Or.inr (Or.inr ⟨rfl, hy⟩))
      · rw [contentMembers_labelElement] at hm
        cases hm

theorem basketSchema_accepts : basketSchema.Accepts basketRoot where
  declared := ⟨basketElement, List.mem_singleton_self _, rfl⟩
  elements path element x h := by
    have hattributes : ∀ type extension declaration name,
        element.Includes (Registry.ofSchema basketSchema) type → type.Extends extension →
        declaration ∈ extension.attributes → declaration.isRequired = true →
        nonempty? declaration.name? = some name → ∃ a ∈ x.attributes, a.1.localName = name := by
      intro type extension declaration name hincludes hextension hdeclaration hrequired
      have htype := hincludes.contains h.contains
      rw [((of_basketSchema_extends htype hextension).2 _ hdeclaration).1] at hrequired
      cases hrequired
    rcases eq_of_basketSchema_describes h with ⟨rfl, rfl⟩ | ⟨rfl, rfl⟩ | ⟨rfl, rfl⟩ | ⟨rfl, rfl⟩
    · refine ⟨fun _ _ y hy => ?_, ?_, ?_, hattributes, fun h => nomatch h⟩
      · rw [contentMembers_basketElement]
        have hitems : basketRoot.children = [emptyItem, labelledItem] := rfl
        rw [hitems] at hy
        rcases List.mem_pair.1 hy with rfl | rfl <;> exact ⟨_, List.mem_singleton_self _, rfl⟩
      all_goals
        rw [contentMembers_basketElement, List.forall_mem_singleton]
        rintro name hname
        cases hname
      · exact fun _ _ h => nomatch h
      · exact fun _ bound h => nomatch h
    · refine ⟨(fun _ _ y hy => nomatch hy), ?_, ?_, hattributes, fun h => nomatch h⟩
      all_goals
        rw [contentMembers_itemElement, List.forall_mem_singleton]
        rintro name hname
        cases hname
      · exact fun _ h => nomatch h
      · exact fun _ => Nat.zero_le 1
    · refine ⟨fun _ _ y hy => ?_, ?_, ?_, hattributes, fun h => nomatch h⟩
      · rw [contentMembers_itemElement]
        have hlabels : labelledItem.children = [basketLabel] := rfl
        rw [hlabels, List.mem_singleton] at hy
        subst hy
        exact ⟨_, List.mem_singleton_self _, rfl⟩
      all_goals
        rw [contentMembers_itemElement, List.forall_mem_singleton]
        rintro name hname
        cases hname
      · exact fun _ h => nomatch h
      · exact fun _ => Nat.le_refl 1
    · refine ⟨(fun _ _ y hy => nomatch hy), ?_, ?_, hattributes, fun h => nomatch h⟩
      all_goals
        rw [contentMembers_labelElement]
        exact fun _ h => nomatch h

end Xsd.Document

/-! ## The shape of a schema -/

/-- The arrays and lists of a shape are those of a document under given options. -/
structure InstanceShape.Follows (shape : InstanceShape) (document : Document) (options : Options) :
    Prop where
  isArray : ∀ name path, shape.isArray name path = (document.arrayPaths options).contains path
  listPaths : shape.listPaths = deriveListPaths document

/-- Paths are taken from a document, with the array policy of conversion options. -/
structure ReadingOptions.Follows (reading : ReadingOptions) (document : Document)
    (options : Options) : Prop where
  schema : reading.schema? = some document
  no_arrayPaths : reading.arrayElementPaths? = none
  no_listPaths : reading.listElementPaths? = none
  options : ∃ fields, reading.convertOptions? = some fields ∧ Options.ofFields fields = .ok options

/-- The shape that takes its arrays and lists from a document. -/
def ReadingOptions.shapeFrom (reading : ReadingOptions) (document : Document) (options : Options) :
    InstanceShape where
  readsTexts := reading.readsTexts
  readsAttributes := reading.readsAttributes
  isArray := fun _ path => (document.arrayPaths options).contains path
  listPaths := deriveListPaths document

theorem ReadingOptions.follows_shapeFrom (reading : ReadingOptions) (document : Document)
    (options : Options) : (reading.shapeFrom document options).Follows document options where
  isArray _ _ := rfl
  listPaths := rfl

/-- Reading options that follow a document take the shape from it. -/
theorem ReadingOptions.Follows.shape_eq {reading : ReadingOptions} {document : Document}
    {options : Options} (h : reading.Follows document options) :
    reading.shape = .ok (reading.shapeFrom document options) := by
  obtain ⟨fields, hfields, hoptions⟩ := h.options
  have hpaths : reading.arrayPaths = .ok (document.arrayPaths options) := by
    simp only [ReadingOptions.arrayPaths, h.no_arrayPaths, h.schema,
      ReadingOptions.schemaArrayPaths, hfields, deriveArrayPaths, Options.resolve]
    -- The options are only looked at when there is a top-level element.
    unfold Document.arrayPaths
    cases rootedSchema? document with
    | none => rfl
    | some schema => simp only [hoptions, Except.map]
  have hnames : reading.arrayNames (document.arrayPaths options) = .ok [] := by
    simp only [ReadingOptions.arrayNames, h.schema, Option.isSome_some, Bool.true_or, if_true]
  simp only [ReadingOptions.shape, hpaths, hnames, ReadingOptions.listPaths, h.no_listPaths,
    h.schema, bind, Except.bind, pure, Except.pure, List.contains_nil, Bool.false_or,
    ReadingOptions.shapeFrom]

/-! ## Fields of valid elements -/

section Fields

variable {document : Document} {schema : Schema} {options : Options} {shape : InstanceShape}
  {root x : Xml.Element} {path : List String} {element : Element}

/-- A member forms an array at its path exactly when the conversion writes an array for it. -/
theorem isArray_of_member (hschema : document.schema? = some schema) (horderly : schema.Orderly)
    (hshape : shape.Follows document options) (h : schema.Describes root path element x)
    {m : Member} (hm : m ∈ element.contentMembers (Registry.ofSchema schema) {}) {name : String}
    (hname : nonempty? m.element.name? = some name) :
    shape.isArray name (joinedPath (path ++ [name])) = options.isArrayMember m := by
  obtain ⟨entries, inSequence, repeats, hchain⟩ := h.exists_chain
  obtain ⟨all, hnext⟩ := exists_next_of_mem_contentMembers hchain hm hname
  have hiff : joinedPath (path ++ [name]) ∈ document.arrayPaths options ↔
      options.Classifies m.element true m.repeats :=
    Document.mem_arrayPaths_iff_of_chain hschema horderly.regular horderly.acyclic
      horderly.paths_distinct hnext
  rw [Options.classifies_iff, ← List.contains_iff_mem] at hiff
  rw [hshape.isArray]
  exact Bool.eq_iff_iff.2 hiff

/-- A member that forms no array occurs at most once. -/
theorem length_le_one_of_not_isArrayMember (horderly : schema.Orderly)
    (hunbounded : options.treatUnboundedAsArray = true) (helement : schema.Contains (.element element))
    (haccepts : element.Accepts (Registry.ofSchema schema) x) {m : Member}
    (hm : m ∈ element.contentMembers (Registry.ofSchema schema) {}) {name : String}
    (hname : nonempty? m.element.name? = some name) (harray : options.isArrayMember m = false) :
    (Xml.named name x.children).length ≤ 1 := by
  simp only [Options.isArrayMember, Options.forcesArray, Options.isArrayElement, hunbounded,
    Bool.and_true, Bool.true_or, Bool.true_and, Bool.or_eq_false_iff] at harray
  obtain ⟨hrepeats, hbound⟩ := harray
  have hallows := haccepts.bounded m hm name hname hrepeats
  obtain ⟨below, hdecl, -, -⟩ := Element.mem_contentMembers_iff.1 ⟨m.optional, hm⟩
  have hbounds := horderly.bounds m.element (.of_element_declares helement hdecl)
  simp only [List.mem_cons, List.not_mem_nil, or_false] at hbounds
  unfold Occurs.Allows at hallows
  rcases hbounds with hmax | hmax | hmax
  · rw [hmax] at hallows
    exact hallows
  · rw [hmax] at hallows
    exact Int.ofNat_le.1 (hallows 1 (by decide))
  · rw [Occurs.isUnbounded, hmax] at hbound
    cases hbound

/-- **The field of a child name** in the value of a valid element holds the values of the children of
that name: all of them in a list where the conversion writes an array, and otherwise the only one. -/
theorem exists_values_of_member (hschema : document.schema? = some schema)
    (horderly : schema.Orderly) (hunbounded : options.treatUnboundedAsArray = true)
    (hshape : shape.Follows document options) (haccepts : schema.Accepts root)
    (h : schema.Describes root path element x) {fields : SchemaBridge.Fields Json}
    (hvalue : shape.elementValue (joinedPath path) x = .ok (.obj fields)) {m : Member}
    (hm : m ∈ element.contentMembers (Registry.ofSchema schema) {}) {name : String}
    (hname : nonempty? m.element.name? = some name) :
    ∃ values, shape.ValuesAt (joinedPath (path ++ [name])) (Xml.named name x.children) values ∧
      fields.value? name =
        if options.isArrayMember m then
          if values = [] then none else some (.arr values)
        else values.head? := by
  -- Only an element with attributes or children is an object.
  have hparts : x.attributes ≠ [] ∨ x.children ≠ [] := by
    by_cases hattributes : x.attributes = []
    · refine Or.inr fun hchildren => ?_
      exact InstanceShape.ne_obj_of_elementValue hvalue hattributes hchildren fields rfl
    · exact Or.inl hattributes
  obtain ⟨found, heq, -, -, hchildren⟩ :=
    InstanceShape.exists_fields_of_elementValue hvalue hparts
  cases heq
  -- The name is that of an element, so neither the text nor an attribute takes its field.
  obtain ⟨below, hdecl, -, -⟩ := Element.mem_contentMembers_iff.1 ⟨m.optional, hm⟩
  have hcontains := Schema.Contains.of_element_declares h.contains hdecl
  have hkey := horderly.paths_distinct.element_keys _ hcontains name hname
  have hmarked := ne_append_of_not_isMarked hkey.1
  obtain ⟨values, hvalues, hfield⟩ := hchildren name hkey.2 hmarked
  rw [← joinedPath_append h.path_ne_nil] at hvalues hfield
  refine ⟨values, hvalues, ?_⟩
  rw [hfield, isArray_of_member hschema horderly hshape h hm hname, InstanceShape.slotAfter_none]
  cases harray : options.isArrayMember m with
  | true =>
      match values with
      | [] => rfl
      | [value] => rfl
      | first :: second :: rest => rfl
  | false =>
      have hlength := length_le_one_of_not_isArrayMember horderly hunbounded h.contains
        (haccepts.elements path element x h) hm hname harray
      rw [hvalues.length_eq] at hlength
      match values, hlength with
      | [], _ => rfl
      | [value], _ => rfl

end Fields

end SchemaBridge
