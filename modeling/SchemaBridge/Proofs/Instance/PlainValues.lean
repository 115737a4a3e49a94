import SchemaBridge.Proofs.Instance.Values
import SchemaBridge.Proofs.JsonSchema.Written
import SchemaBridge.Xsd.Reader

/-!
# Plain values of element trees

A schema document is read from the plain value of its tree: texts stay texts, and no child is wrapped
for its own sake. Such a value always exists (`InstanceShape.exists_plain_value`), and a reader of
declarations finds in it what stands in the tree (`Represents`): under the key of an attribute the last
value with that local name, and under a tag the children with that local name that carry an attribute
or a child, in their order. Children that are texts only are passed over, and whether a tag holds one
child or several makes no difference.

An attribute shares its key with a child only when the name of the child starts as keys of attributes
do, which is no name of XML (`Xml.Element.NamesUnmarked`).
-/

set_option autoImplicit false

namespace SchemaBridge

/-! ## Parts of elements -/

namespace Xml

/-- The value of the last attribute with a local name. -/
def lastNamed? (name : String) (attributes : List (Name × String)) : Option String :=
  (attributes.filter fun a => a.1.localName = name).getLast?.map Prod.snd

theorem lastNamed?_cons (name : String) (first : Name × String) (rest : List (Name × String)) :
    lastNamed? name (first :: rest) =
      (lastNamed? name rest).or (if first.1.localName = name then some first.2 else none) := by
  unfold lastNamed?
  by_cases h : first.1.localName = name
  · rw [List.filter_cons_of_pos (by simpa using h), List.getLast?_cons, if_pos h]
    cases (rest.filter fun a => a.1.localName = name).getLast? <;> rfl
  · rw [List.filter_cons_of_neg (by simpa using h), if_neg h, Option.or_none]

namespace Element

/-- The value of the last attribute of an element with a local name. -/
def attribute? (x : Element) (name : String) : Option String := lastNamed? name x.attributes

/-- The element carries an attribute or a child element. -/
def isStructured (x : Element) : Bool := !x.attributes.isEmpty || !x.children.isEmpty

theorem isStructured_iff (x : Element) :
    x.isStructured = true ↔ x.attributes ≠ [] ∨ x.children ≠ [] := by
  simp [isStructured]

/-- The children with a local name that carry an attribute or a child element, in document order. -/
def parts (x : Element) (name : String) : List Element :=
  (named name x.children).filter isStructured

theorem mem_children_of_mem_parts {x y : Element} {name : String} (h : y ∈ x.parts name) :
    y ∈ x.children :=
  (List.mem_filter.1 (List.mem_filter.1 h).1).1

/-- A child is smaller than its parent. -/
theorem sizeOf_lt_of_mem_children {x y : Element} (h : y ∈ x.children) : sizeOf y < sizeOf x := by
  obtain ⟨name, attributes, content⟩ := x
  obtain ⟨piece, hpiece, hchild⟩ := List.mem_filterMap.1 h
  cases piece with
  | element child =>
      cases hchild
      have hlt := List.sizeOf_lt_of_mem hpiece
      simp only [Content.element.sizeOf_spec, Element.mk.sizeOf_spec] at hlt ⊢
      omega
  | _ => cases hchild

/-- An element lies in a tree, at any depth. -/
inductive Contains : Element → Element → Prop where
  | self (x : Element) : Contains x x
  | child {x y z : Element} (hy : y ∈ x.children) (h : Contains y z) : Contains x z

/-- No element of a tree has the key of an attribute as its local name. -/
def NamesUnmarked (root : Element) : Prop :=
  ∀ x, root.Contains x → ¬ Xsd.IsMarked x.name.localName

theorem NamesUnmarked.child {x y : Element} (h : x.NamesUnmarked) (hy : y ∈ x.children) :
    y.NamesUnmarked :=
  fun z hz => h z (.child hy hz)

end Element

end Xml

/-! ## Plain values -/

namespace InstanceShape

open Xml

/-- The shape of schema documents: every value is a text, and nothing is an array for its own sake. -/
def plain : InstanceShape := {}

variable {path : String}

/-- The fields of attributes: under each key the last value. -/
theorem exists_plain_attributeSlots (attributes : List (Name × String)) (slots : Fields Slot) :
    ∃ result, plain.attributeSlots slots attributes = .ok result ∧
      ∀ name, result.value? (Xsd.attributeMark ++ name) =
        ((lastNamed? name attributes).map fun text => Slot.one (.str text)).or
          (slots.value? (Xsd.attributeMark ++ name)) := by
  induction attributes generalizing slots with
  | nil => exact ⟨slots, rfl, fun name => rfl⟩
  | cons first rest ih =>
      obtain ⟨key, text⟩ := first
      obtain ⟨result, hresult, hvalues⟩ :=
        ih (slots.put (Xsd.attributeMark ++ key.localName) (.one (.str text)))
      refine ⟨result, hresult, fun name => ?_⟩
      rw [hvalues, Fields.value?_put, lastNamed?_cons,
        if_congr Xsd.attributeMark_append_inj rfl rfl]
      cases lastNamed? name rest with
      | some last => rfl
      | none => by_cases h : key.localName = name <;> simp [h]

theorem plain_textValue (text : List Char) :
    plain.textValue path text = .ok (.str (String.ofList text)) := rfl

theorem exists_plain_assembled (path : String) (slots : Fields Slot) (text : List Char) :
    ∃ value, plain.assembled path slots text = .ok value := by
  unfold assembled
  split
  · exact ⟨_, plain_textValue text⟩
  · simp only
    split
    · exact ⟨_, rfl⟩
    · exact ⟨_, rfl⟩

mutual

/-- **Every element has a plain value.** -/
theorem exists_plain_value (path : String) :
    ∀ x : Element, ∃ value, plain.elementValue path x = .ok value
  | ⟨_, attributes, content⟩ => by
      obtain ⟨slots, hslots, -⟩ := exists_plain_attributeSlots attributes []
      obtain ⟨result, hresult⟩ := exists_plain_childSlots path slots content
      obtain ⟨value, hvalue⟩ := exists_plain_assembled path result (ownText content)
      refine ⟨value, ?_⟩
      rw [elementValue, bind_eq_ok_iff]
      exact ⟨slots, hslots, bind_eq_ok_iff.2 ⟨result, hresult, hvalue⟩⟩

theorem exists_plain_childSlots (path : String) (slots : Fields Slot) :
    ∀ content : List Content, ∃ result, plain.childSlots path slots content = .ok result
  | [] => ⟨slots, rfl⟩
  | piece :: rest => by
      obtain ⟨next, hnext⟩ := exists_plain_childSlot path slots piece
      obtain ⟨result, hresult⟩ := exists_plain_childSlots path next rest
      refine ⟨result, ?_⟩
      rw [childSlots, bind_eq_ok_iff]
      exact ⟨next, hnext, hresult⟩

theorem exists_plain_childSlot (path : String) (slots : Fields Slot) :
    ∀ piece : Content, ∃ result, plain.childSlot path slots piece = .ok result
  | .text _ => ⟨slots, rfl⟩
  | .reference _ => ⟨slots, rfl⟩
  | .element child => by
      obtain ⟨value, hvalue⟩ :=
        exists_plain_value (path ++ "." ++ child.name.localName) child
      refine ⟨slots.put child.name.localName
        (Slot.add (slots.value? child.name.localName) false value), ?_⟩
      rw [childSlot, bind_eq_ok_iff]
      exact ⟨value, hvalue, rfl⟩

end

section Structure

variable {x : Element} {value : Json}

/-- An element without attributes and children is a text. -/
theorem exists_str_of_plain_value (h : plain.elementValue path x = .ok value)
    (hplain : x.isStructured = false) : ∃ text, value = .str text := by
  have hnone : x.attributes = [] ∧ x.children = [] := by
    simpa [Element.isStructured] using hplain
  have htext := textValue_of_elementValue h hnone.1 hnone.2
  rw [plain_textValue] at htext
  cases htext
  exact ⟨_, rfl⟩

/-- An element with attributes or children is an object. Under the key of an attribute it has the last
value of that name, and under any other key the values of the children of that name. -/
theorem exists_plain_fields (h : plain.elementValue path x = .ok value)
    (hstructured : x.isStructured = true) :
    ∃ fields : Fields Json, value = .obj fields ∧
      (∀ name, named (Xsd.attributeMark ++ name) x.children = [] →
        fields.value? (Xsd.attributeMark ++ name) = (x.attribute? name).map .str) ∧
      ∀ tag, Xsd.IsElementKey tag → ∃ values,
        plain.ValuesAt (path ++ "." ++ tag) (named tag x.children) values ∧
        fields.value? tag = (slotAfter false none values).map Slot.toJson := by
  have hparts := (x.isStructured_iff).1 hstructured
  obtain ⟨fields, rfl, -, -, hchildren⟩ := exists_fields_of_elementValue h hparts
  refine ⟨fields, rfl, fun name hnone => ?_, fun tag htag => ?_⟩
  · obtain ⟨name', attributes, content⟩ := x
    rw [elementValue, bind_eq_ok_iff] at h
    obtain ⟨slots, hslots, h⟩ := h
    obtain ⟨result, hresult, hassembled⟩ := bind_eq_ok_iff.1 h
    obtain ⟨found, hfound, hvalues⟩ := exists_plain_attributeSlots attributes []
    cases hslots.symm.trans hfound
    -- The children leave the field alone, as none of them has its key.
    obtain ⟨values, hnamed, hfield⟩ := exists_childSlots hresult (Xsd.attributeMark ++ name)
    have hnil : values = [] := by
      have hempty : named (Xsd.attributeMark ++ name) (childElements content) = [] := hnone
      exact hnamed.eq_nil_iff.2 hempty
    rw [hnil, hvalues] at hfield
    have hne : result ≠ [] := by
      rintro rfl
      cases hassembled
    obtain ⟨found, heq, hfields, -⟩ := exists_fields_of_assembled hassembled hne
    cases heq
    rw [hfields _ (attributeMark_append_ne_textKey name), hfield]
    show Option.map Slot.toJson (Option.or _ none) = _
    rw [Option.or_none, Option.map_map]
    rfl
  · exact hchildren tag htag.2 (Xsd.ne_append_of_not_isMarked htag.1)

end Structure

end InstanceShape

/-! ## Nodes of plain values -/

namespace Xsd

/-- A node holds what stands in an element: under the key of an attribute its last value, and under a
tag the structured children of that name. -/
inductive Represents : Xml.Element → Node → Prop where
  | intro {x : Xml.Element} {node : Node}
      (attributes : ∀ name, node.attribute? name = x.attribute? name)
      (children : ∀ tag, IsElementKey tag →
        List.Forall₂ Represents (x.parts tag) (node.children tag)) :
      Represents x node

/-- The node of a value: its fields, or nothing when it is a text. -/
def nodeOf (value : Json) : Node := value.fields?.getD []

/-- The nodes under a key are the objects among the values, whether they stand alone or in a list. -/
theorem filterMap_asList_slotAfter {values : List Json}
    (hvalues : ∀ v ∈ values, (∃ text, v = .str text) ∨ ∃ fields, v = .obj fields) :
    (asList (((InstanceShape.slotAfter false none values).map Slot.toJson).getD .null)).filterMap
        Json.fields? = values.filterMap Json.fields? := by
  rw [InstanceShape.slotAfter_none]
  match values with
  | [] => rfl
  | [value] =>
      rcases hvalues value (List.mem_singleton_self _) with ⟨text, rfl⟩ | ⟨fields, rfl⟩
      · -- The empty text is no node, and no other text is one either.
        by_cases h : text = "" <;> simp [asList, Slot.toJson, Json.fields?, h]
      · rfl
  | first :: second :: rest => rfl

theorem forall₂_filter_filterMap {α β γ : Type} {R : α → β → Prop} {S : α → γ → Prop}
    {p : α → Bool} {g : β → Option γ} {as : List α} {bs : List β} (h : List.Forall₂ R as bs)
    (hkept : ∀ a ∈ as, ∀ b, R a b → p a = true → ∃ c, g b = some c ∧ S a c)
    (hdropped : ∀ a ∈ as, ∀ b, R a b → p a = false → g b = none) :
    List.Forall₂ S (as.filter p) (bs.filterMap g) := by
  induction h with
  | nil => exact .nil
  | @cons a b as bs hfirst _ ih =>
      have hrest := ih (fun a ha => hkept a (List.mem_cons_of_mem _ ha))
        fun a ha => hdropped a (List.mem_cons_of_mem _ ha)
      cases hp : p a with
      | true =>
          obtain ⟨c, hc, hS⟩ := hkept a (List.mem_cons_self ..) b hfirst hp
          rw [List.filter_cons_of_pos hp, List.filterMap_cons_some hc]
          exact .cons hS hrest
      | false =>
          rw [List.filter_cons_of_neg (by simp [hp]),
            List.filterMap_cons_none (hdropped a (List.mem_cons_self ..) b hfirst hp)]
          exact hrest

/-- **The plain value of a tree represents it**, whatever the path of its root. -/
theorem represents_nodeOf (x : Xml.Element) (hnames : x.NamesUnmarked) {path : String}
    {value : Json} (h : InstanceShape.plain.elementValue path x = .ok value) :
    Represents x (nodeOf value) := by
  cases hstructured : x.isStructured with
  | false =>
      obtain ⟨text, rfl⟩ := InstanceShape.exists_str_of_plain_value h hstructured
      have hnone : x.attributes = [] ∧ x.children = [] := by
        simpa [Xml.Element.isStructured] using hstructured
      constructor
      · intro name
        rw [Xml.Element.attribute?, hnone.1]
        rfl
      · intro tag _
        rw [Xml.Element.parts, hnone.2]
        exact .nil
  | true =>
      obtain ⟨fields, rfl, hattributes, hchildren⟩ :=
        InstanceShape.exists_plain_fields h hstructured
      constructor
      · intro name
        have hnone : Xml.named (attributeMark ++ name) x.children = [] := by
          refine List.filter_eq_nil_iff.2 fun y hy heq => ?_
          have hmarked : IsMarked y.name.localName := by
            rw [of_decide_eq_true heq]
            exact isMarked_append name
          exact hnames y (.child hy (.self y)) hmarked
        show Node.attribute? fields name = x.attribute? name
        rw [Node.attribute?, hattributes name hnone]
        cases x.attribute? name <;> rfl
      · intro tag htag
        obtain ⟨values, hvalues, hfield⟩ := hchildren tag htag
        have hforms : ∀ v ∈ values, (∃ text, v = .str text) ∨ ∃ fields, v = .obj fields := by
          intro v hv
          obtain ⟨y, -, hy⟩ := hvalues.exists_of_mem hv
          cases hy' : y.isStructured with
          | false => exact Or.inl (InstanceShape.exists_str_of_plain_value hy hy')
          | true =>
              obtain ⟨fields, rfl, -⟩ := InstanceShape.exists_plain_fields hy hy'
              exact Or.inr ⟨fields, rfl⟩
        show List.Forall₂ Represents (x.parts tag) (Node.children fields tag)
        rw [Node.children, hfield, filterMap_asList_slotAfter hforms]
        refine forall₂_filter_filterMap hvalues (fun y hy v hv hy' => ?_) fun y hy v hv hy' => ?_
        · have hmem : y ∈ x.children := (List.mem_filter.1 hy).1
          have hsmaller := Xml.Element.sizeOf_lt_of_mem_children hmem
          have hinner := represents_nodeOf y (hnames.child hmem) hv
          obtain ⟨inner, rfl, -⟩ := InstanceShape.exists_plain_fields hv hy'
          exact ⟨inner, rfl, hinner⟩
        · obtain ⟨text, rfl⟩ := InstanceShape.exists_str_of_plain_value hv hy'
          rfl
termination_by sizeOf x

end Xsd

end SchemaBridge
