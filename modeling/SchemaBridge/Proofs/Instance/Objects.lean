import SchemaBridge.Proofs.Instance.Readable

/-!
# What an object holds

The value of an element with an attribute or a child is an object in which every part of the element
has its place and nothing else does. `HoldsParts` looks every key up: the key of an attribute has
the last value of that name, the key of a child has the values of all children of that name, and the
key of the text has the text. The three kinds of keys differ (`key_cases`), so no part can hide
another one.

From this follows what a whole tree keeps (`objects_gather_parts`): exactly the keys of the parts,
and under a name of children their values in document order, as an array when there are several or
an array is asked for and as the value itself otherwise. Arrays of siblings are told from values
that are arrays themselves, since the items of an array are the values of the children and never
their items.
-/

set_option autoImplicit false

namespace SchemaBridge

open Xsd (attributeMark IsMarked IsElementKey isMarked_append attributeMark_append_inj)

/-! ## Keys -/

theorem isMarked_iff {key : String} : IsMarked key ↔ ∃ name, key = attributeMark ++ name := by
  constructor
  · rintro ⟨rest, hrest⟩
    refine ⟨String.ofList rest, ?_⟩
    rw [← String.toList_inj, String.toList_append, String.toList_ofList]
    exact hrest.symm
  · rintro ⟨name, rfl⟩
    exact isMarked_append name

/-- A key belongs to an attribute, to the text or to children. -/
theorem key_cases (key : String) :
    (∃ name, key = attributeMark ++ name) ∨ key = InstanceShape.textKey ∨ IsElementKey key := by
  by_cases hmarked : IsMarked key
  · exact Or.inl (isMarked_iff.1 hmarked)
  · by_cases htext : key = InstanceShape.textKey
    · exact Or.inr (Or.inl htext)
    · exact Or.inr (Or.inr ⟨hmarked, htext⟩)

/-- No element of a tree has two attributes with one local name. -/
def Xml.Element.AttributesDistinct (root : Xml.Element) : Prop :=
  ∀ names x, root.StandsAt names x → (x.attributes.map fun a => a.1.localName).Nodup

namespace InstanceShape

open Xml

variable {shape : InstanceShape} {path : String} {x : Element}

/-! ## The loops over attributes and children -/

/-- Under the key of an attribute stands the last value of that name. -/
theorem value?_attributeSlots {attributes : List (Name × String)} {slots result : Fields Slot}
    (h : shape.attributeSlots slots attributes = .ok result) (name : String) :
    (lastNamed? name attributes = none ∧
        result.value? (attributeMark ++ name) = slots.value? (attributeMark ++ name)) ∨
      ∃ text value, lastNamed? name attributes = some text ∧
        shape.attributeValue text = .ok value ∧
        result.value? (attributeMark ++ name) = some (.one value) := by
  induction attributes generalizing slots with
  | nil =>
      rw [attributeSlots, Except.ok.injEq] at h
      exact Or.inl ⟨rfl, by rw [h]⟩
  | cons first rest ih =>
      obtain ⟨key, text⟩ := first
      rw [attributeSlots, bind_eq_ok_iff] at h
      obtain ⟨value, hvalue, h⟩ := h
      rw [lastNamed?_cons]
      rcases ih h with ⟨hnone, hresult⟩ | ⟨later, laterValue, hsome, hlater, hresult⟩
      · rw [Fields.value?_put, if_congr attributeMark_append_inj rfl rfl] at hresult
        by_cases hname : key.localName = name
        · rw [if_pos hname] at hresult
          exact Or.inr ⟨text, value, by rw [hnone, if_pos hname]; rfl, hvalue, hresult⟩
        · rw [if_neg hname] at hresult
          exact Or.inl ⟨by rw [hnone, if_neg hname]; rfl, hresult⟩
      · -- A later attribute of the name goes before the first one.
        exact Or.inr ⟨later, laterValue, by rw [hsome]; rfl, hlater, hresult⟩

theorem nodup_attributeSlots {attributes : List (Name × String)} {slots result : Fields Slot}
    (h : shape.attributeSlots slots attributes = .ok result) (hslots : (Fields.names slots).Nodup) :
    (Fields.names result).Nodup := by
  induction attributes generalizing slots with
  | nil =>
      rw [attributeSlots, Except.ok.injEq] at h
      exact h ▸ hslots
  | cons first rest ih =>
      obtain ⟨name, text⟩ := first
      rw [attributeSlots, bind_eq_ok_iff] at h
      obtain ⟨value, -, h⟩ := h
      exact ih h (Fields.nodup_names_put hslots _ _)

theorem nodup_childSlots {content : List Content} {slots result : Fields Slot}
    (h : shape.childSlots path slots content = .ok result) (hslots : (Fields.names slots).Nodup) :
    (Fields.names result).Nodup := by
  induction content generalizing slots with
  | nil =>
      rw [childSlots, Except.ok.injEq] at h
      exact h ▸ hslots
  | cons piece rest ih =>
      rw [childSlots, bind_eq_ok_iff] at h
      obtain ⟨next, hnext, h⟩ := h
      apply ih h
      cases piece with
      | text text =>
          rw [childSlot, Except.ok.injEq] at hnext
          exact hnext ▸ hslots
      | reference entity =>
          rw [childSlot, Except.ok.injEq] at hnext
          exact hnext ▸ hslots
      | element child =>
          rw [childSlot, bind_eq_ok_iff] at hnext
          obtain ⟨value, -, hput⟩ := hnext
          cases hput
          exact Fields.nodup_names_put hslots _ _

/-- Only attributes give fields to keys of attributes. -/
theorem value?_attributeSlots_of_not_isMarked {attributes : List (Name × String)}
    {slots : Fields Slot} (h : shape.attributeSlots [] attributes = .ok slots) {key : String}
    (hkey : ¬ IsMarked key) : slots.value? key = none := by
  rw [← Option.not_isSome_iff_eq_none, isSome_attributeSlots h]
  rintro (hsome | ⟨a, -, rfl⟩)
  · cases hsome
  · exact hkey (isMarked_append _)

/-- Children leave the keys alone that none of them has. -/
theorem value?_childSlots_of_not_named {content : List Content} {slots result : Fields Slot}
    (h : shape.childSlots path slots content = .ok result) {key : String}
    (hkey : ∀ y ∈ childElements content, y.name.localName ≠ key) :
    result.value? key = slots.value? key := by
  obtain ⟨values, hvalues, hresult⟩ := exists_childSlots h key
  have hnone : named key (childElements content) = [] := by
    apply List.filter_eq_nil_iff.2
    intro y hy heq
    exact hkey y hy (of_decide_eq_true heq)
  rw [hresult, hvalues.eq_nil_iff.2 hnone]
  rfl

/-- Children leave the keys of attributes alone. -/
theorem value?_childSlots_attribute {content : List Content} {slots result : Fields Slot}
    (h : shape.childSlots path slots content = .ok result)
    (hkeys : ∀ y ∈ childElements content, IsElementKey y.name.localName) (name : String) :
    result.value? (attributeMark ++ name) = slots.value? (attributeMark ++ name) := by
  apply value?_childSlots_of_not_named h
  intro y hy heq
  exact (hkeys y hy).1 (heq ▸ isMarked_append name)

/-- Neither attributes nor children take the key of the text. -/
theorem value?_childSlots_textKey {attributes : List (Name × String)} {content : List Content}
    {slots result : Fields Slot} (hattributes : shape.attributeSlots [] attributes = .ok slots)
    (h : shape.childSlots path slots content = .ok result)
    (hkeys : ∀ y ∈ childElements content, IsElementKey y.name.localName) :
    result.value? textKey = none := by
  have hnamed : ∀ y ∈ childElements content, y.name.localName ≠ textKey :=
    fun y hy => (hkeys y hy).2
  rw [value?_childSlots_of_not_named h hnamed]
  exact value?_attributeSlots_of_not_isMarked hattributes (by decide)

/-! ## Objects -/

/-- What an object holds under every key that a part of an element can have. -/
structure HoldsParts (shape : InstanceShape) (path : String) (x : Element) (fields : Fields Json) :
    Prop where
  nodup : (Fields.names fields).Nodup
  attributes : ∀ name,
    (x.attribute? name = none ∧ fields.value? (attributeMark ++ name) = none) ∨
      ∃ text value, x.attribute? name = some text ∧ shape.attributeValue text = .ok value ∧
        fields.value? (attributeMark ++ name) = some value
  children : ∀ name, IsElementKey name → ∃ values,
    shape.ValuesAt (path ++ "." ++ name) (named name x.children) values ∧
      fields.value? name =
        (slotAfter (shape.isArray name (path ++ "." ++ name)) none values).map Slot.toJson
  text : ∃ value, shape.textValue path (ownText x.content) = .ok value ∧
    fields.value? textKey =
      if ownText x.content ≠ [] ∨ path ∈ shape.listPaths then some value else none

/-- **The object of an element holds its parts**, each under a key of its own. -/
theorem exists_holdsParts {value : Json} (h : shape.elementValue path x = .ok value)
    (hparts : x.attributes ≠ [] ∨ x.children ≠ [])
    (hkeys : ∀ y ∈ x.children, IsElementKey y.name.localName) :
    ∃ fields, value = .obj fields ∧ shape.HoldsParts path x fields := by
  obtain ⟨name, attributes, content⟩ := x
  rw [elementValue, bind_eq_ok_iff] at h
  obtain ⟨slots, hslots, h⟩ := h
  obtain ⟨result, hresult, h⟩ := bind_eq_ok_iff.1 h
  have hfilled : shape.FilledSlots path ⟨name, attributes, content⟩ result :=
    filledSlots_of_loops hslots hresult
  have hne : result ≠ [] := by
    intro hnil
    obtain ⟨hattributes, hchildren⟩ := hfilled.eq_nil_iff.1 hnil
    exact hparts.elim (absurd hattributes) (absurd hchildren)
  have hnodup : (Fields.names result).Nodup :=
    nodup_childSlots hresult (nodup_attributeSlots hslots List.nodup_nil)
  obtain ⟨fields, content', rfl, hcontent, hfields⟩ := exists_fields_and_text h hne
  have hvalue? : ∀ key, key ≠ textKey →
      fields.value? key = (result.value? key).map Slot.toJson := by
    intro key hkey
    rw [hfields]
    exact value?_fields_and_text hkey
  refine ⟨fields, rfl, ?_, fun suffix => ?_, fun key hkey => ?_, content', hcontent, ?_⟩
  · rw [hfields]
    exact nodup_fields_and_text hnodup
  · rw [hvalue? _ (attributeMark_append_ne_textKey suffix),
      value?_childSlots_attribute hresult hkeys]
    rcases value?_attributeSlots hslots suffix with
      ⟨hnone, hvalue⟩ | ⟨text, value, hsome, htext, hvalue⟩
    · exact Or.inl ⟨hnone, by rw [hvalue]; rfl⟩
    · exact Or.inr ⟨text, value, hsome, htext, by rw [hvalue]; rfl⟩
  · obtain ⟨values, hvalues, hslot⟩ := exists_childSlots hresult key
    refine ⟨values, hvalues, ?_⟩
    rw [hvalue? key hkey.2, hslot, value?_attributeSlots_of_not_isMarked hslots hkey.1]
  · rw [hfields]
    split
    · exact Fields.value?_put_self ..
    · rw [Fields.value?_map, value?_childSlots_textKey hslots hresult hkeys]
      rfl

/-! ## Parts and their keys -/

theorem lastNamed?_eq_none_iff {attributes : List (Name × String)} {name : String} :
    lastNamed? name attributes = none ↔ ∀ a ∈ attributes, a.1.localName ≠ name := by
  rw [lastNamed?, Option.map_eq_none_iff, List.getLast?_eq_none_iff, List.filter_eq_nil_iff]
  simp only [decide_eq_true_eq, Ne]

theorem exists_mem_of_lastNamed? {attributes : List (Name × String)} {name value : String}
    (h : lastNamed? name attributes = some value) : ∃ a ∈ attributes, a.2 = value := by
  obtain ⟨a, hlast, rfl⟩ := Option.map_eq_some_iff.1 h
  exact ⟨a, (List.mem_filter.1 (List.mem_of_getLast? hlast)).1, rfl⟩

/-- Where the attributes of an element have different local names, each of them is the last of its
name. -/
theorem lastNamed?_of_nodup {attributes : List (Name × String)}
    (hdistinct : (attributes.map fun a => a.1.localName).Nodup) {a : Name × String}
    (ha : a ∈ attributes) : lastNamed? a.1.localName attributes = some a.2 := by
  induction attributes with
  | nil => cases ha
  | cons first rest ih =>
      rw [List.map_cons, List.nodup_cons] at hdistinct
      rw [lastNamed?_cons]
      rcases List.mem_cons.1 ha with rfl | ha
      · have hnone : lastNamed? a.1.localName rest = none := by
          apply lastNamed?_eq_none_iff.2
          intro other hother heq
          exact hdistinct.1 (heq ▸ List.mem_map_of_mem hother)
        rw [hnone, if_pos rfl]
        rfl
      · rw [ih hdistinct.2 ha]
        rfl

theorem named_eq_nil_iff {elements : List Element} {name : String} :
    named name elements = [] ↔ ∀ y ∈ elements, y.name.localName ≠ name := by
  simp [named]

section HoldsParts

variable {fields : Fields Json}

theorem HoldsParts.attribute_mem_iff (h : shape.HoldsParts path x fields) (name : String) :
    attributeMark ++ name ∈ Fields.names fields ↔ ∃ a ∈ x.attributes, a.1.localName = name := by
  have hnamed : (∃ a ∈ x.attributes, a.1.localName = name) ↔ x.attribute? name ≠ none := by
    rw [Element.attribute?, Ne, lastNamed?_eq_none_iff]
    simp only [not_forall, not_not, exists_prop]
  rw [hnamed, Fields.mem_names_iff_isSome]
  rcases h.attributes name with ⟨hnone, hfield⟩ | ⟨text, value, hsome, -, hfield⟩
  · simp [hnone, hfield]
  · simp [hsome, hfield]

theorem HoldsParts.text_mem_iff (h : shape.HoldsParts path x fields) :
    textKey ∈ Fields.names fields ↔ ownText x.content ≠ [] ∨ path ∈ shape.listPaths := by
  obtain ⟨value, -, hfield⟩ := h.text
  rw [Fields.mem_names_iff_isSome, hfield]
  split
  · next hplaced => exact ⟨fun _ => hplaced, fun _ => rfl⟩
  · next hleft => exact ⟨nofun, fun hplaced => absurd hplaced hleft⟩

theorem HoldsParts.child_mem_iff (h : shape.HoldsParts path x fields) {name : String}
    (hname : IsElementKey name) :
    name ∈ Fields.names fields ↔ ∃ y ∈ x.children, y.name.localName = name := by
  obtain ⟨values, hvalues, hfield⟩ := h.children name hname
  have hnamed : (∃ y ∈ x.children, y.name.localName = name) ↔ values ≠ [] := by
    rw [Ne, hvalues.eq_nil_iff, named_eq_nil_iff]
    simp only [not_forall, not_not, exists_prop]
  rw [hnamed, Fields.mem_names_iff_isSome, hfield, Option.isSome_map, isSome_slotAfter]
  simp

/-- The keys of an object are those of the attributes, of the children and of the text. -/
theorem HoldsParts.mem_names_iff (h : shape.HoldsParts path x fields)
    (hkeys : ∀ y ∈ x.children, IsElementKey y.name.localName) (key : String) :
    key ∈ Fields.names fields ↔
      (∃ a ∈ x.attributes, key = attributeMark ++ a.1.localName) ∨
        (∃ y ∈ x.children, key = y.name.localName) ∨
          (key = textKey ∧ (ownText x.content ≠ [] ∨ path ∈ shape.listPaths)) := by
  constructor
  · intro hmem
    -- A key is that of one kind of parts.
    rcases key_cases key with ⟨name, rfl⟩ | rfl | hkey
    · obtain ⟨a, ha, rfl⟩ := (h.attribute_mem_iff name).1 hmem
      exact Or.inl ⟨a, ha, rfl⟩
    · exact Or.inr (Or.inr ⟨rfl, h.text_mem_iff.1 hmem⟩)
    · obtain ⟨y, hy, rfl⟩ := (h.child_mem_iff hkey).1 hmem
      exact Or.inr (Or.inl ⟨y, hy, rfl⟩)
  · rintro (⟨a, ha, rfl⟩ | ⟨y, hy, rfl⟩ | ⟨rfl, hplaced⟩)
    · exact (h.attribute_mem_iff _).2 ⟨a, ha, rfl⟩
    · exact (h.child_mem_iff (hkeys y hy)).2 ⟨y, hy, rfl⟩
    · exact h.text_mem_iff.2 hplaced

end HoldsParts

/-- How the object of an element gathers its parts. -/
structure GathersParts (shape : InstanceShape) (path : String) (x : Element)
    (fields : Fields Json) : Prop where
  /-- No key stands twice. -/
  nodup : (Fields.names fields).Nodup
  /-- The keys are those of the attributes, of the children and, where there is one, of the text. -/
  keys : ∀ key, key ∈ Fields.names fields ↔
    (∃ a ∈ x.attributes, key = attributeMark ++ a.1.localName) ∨
      (∃ y ∈ x.children, key = y.name.localName) ∨
        (key = textKey ∧ (ownText x.content ≠ [] ∨ path ∈ shape.listPaths))
  /-- An attribute has its value. -/
  attributes : ∀ a ∈ x.attributes, ∃ value, shape.attributeValue a.2 = .ok value ∧
    fields.value? (attributeMark ++ a.1.localName) = some value
  /-- The children of one name have their values in document order: as an array when there are at
  least two or an array is asked for, and otherwise the single value as it is. -/
  children : ∀ y ∈ x.children, ∃ values,
    shape.ValuesAt (path ++ "." ++ y.name.localName) (named y.name.localName x.children) values ∧
      (2 ≤ values.length ∨
          shape.isArray y.name.localName (path ++ "." ++ y.name.localName) = true →
        fields.value? y.name.localName = some (.arr values)) ∧
      ∀ value, values = [value] →
        shape.isArray y.name.localName (path ++ "." ++ y.name.localName) = false →
        fields.value? y.name.localName = some value

theorem HoldsParts.gathersParts {fields : Fields Json} (h : shape.HoldsParts path x fields)
    (hkeys : ∀ y ∈ x.children, IsElementKey y.name.localName)
    (hdistinct : (x.attributes.map fun a => a.1.localName).Nodup) :
    shape.GathersParts path x fields := by
  refine ⟨h.nodup, fun key => ?_, fun a ha => ?_, fun y hy => ?_⟩
  · exact h.mem_names_iff hkeys key
  · rcases h.attributes a.1.localName with ⟨hnone, -⟩ | ⟨text, value, hsome, hvalue, hfield⟩
    · rw [Element.attribute?, lastNamed?_of_nodup hdistinct ha] at hnone
      cases hnone
    · rw [Element.attribute?, lastNamed?_of_nodup hdistinct ha, Option.some.injEq] at hsome
      exact ⟨value, hsome ▸ hvalue, hfield⟩
  · obtain ⟨values, hvalues, hfield⟩ := h.children _ (hkeys y hy)
    have hne : values ≠ [] := by
      intro hnil
      have hmem : y ∈ named y.name.localName x.children := List.mem_filter.2 ⟨hy, by simp⟩
      rw [hvalues.eq_nil_iff.1 hnil] at hmem
      cases hmem
    refine ⟨values, hvalues, fun harray => ?_, fun value hone hbare => ?_⟩
    · rw [hfield, slotAfter_none]
      cases values with
      | nil => exact absurd rfl hne
      | cons value rest =>
          cases rest with
          | nil =>
              have hforced := harray.resolve_left (by simp)
              rw [hforced]
              rfl
          | cons second more => rfl
    · rw [hfield, hone, hbare]
      rfl

/-! ## Whole trees -/

/-- Only a shape that reads scalars reads texts as such. -/
theorem ReadsIn.reads {root : Element} {text : String} (h : shape.ReadsIn root text) :
    shape.readsAttributes = true ∨ shape.readsTexts = true := by
  obtain ⟨names, x, -, htext⟩ := h
  by_contra hno
  rw [not_or, Bool.not_eq_true, Bool.not_eq_true] at hno
  simp [scalarTexts, hno.1, hno.2] at htext

/-- **Every object of a tree gathers the parts of its element.** A tree has no value only where a
whole number that is read as a scalar has too many digits. -/
theorem objects_gather_parts (shape : InstanceShape) {root : Element} (hkeys : root.NamesAreKeys)
    (hdistinct : root.AttributesDistinct) :
    (shape.treeValue root = .error .integerTooLong ∧
        (shape.readsAttributes = true ∨ shape.readsTexts = true) ∧
        ∃ text, shape.ReadsIn root text ∧ Scalar.IsOverlong text) ∨
      (∃ value, shape.treeValue root = .ok [(root.name.localName, value)] ∧
        shape.elementValue root.name.localName root = .ok value) ∧
        ∀ names x, root.StandsAt names x → x.attributes ≠ [] ∨ x.children ≠ [] →
          ∃ fields, shape.elementValue (joinedPath names) x = .ok (.obj fields) ∧
            shape.GathersParts (joinedPath names) x fields := by
  rcases shape.treeValue_cases root with ⟨herror, text, hreads, hlong⟩ | ⟨⟨value, htree, hroot⟩, -⟩
  · exact Or.inl ⟨herror, hreads.reads, text, hreads, hlong⟩
  · refine Or.inr ⟨⟨value, htree, hroot⟩, fun names x hx hparts => ?_⟩
    have hchildren : ∀ y ∈ x.children, IsElementKey y.name.localName :=
      fun y hy => hkeys _ y (hx.child hy)
    obtain ⟨inner, hinner⟩ := exists_elementValue_of_standsAt hroot hx
    obtain ⟨fields, rfl, hholds⟩ := exists_holdsParts hinner hparts hchildren
    exact ⟨fields, hinner, hholds.gathersParts hchildren (hdistinct names x hx)⟩

/-! ## An order with sizes -/

/-- Two sizes in one element. -/
def firstSizes : Element := { name := { localPart := "size" }, content := [.text "1 2"] }

/-- One size in another. -/
def secondSizes : Element := { name := { localPart := "size" }, content := [.text " 3 "] }

/-- An empty note. -/
def emptyNote : Element := { name := { localPart := "note" } }

/-- An order with an attribute, children of two names, text around them and a reference. -/
def orderRoot : Element :=
  { name := { localPart := "order" }
    attributes := [({ localPart := "id" }, "7")]
    content := [.element firstSizes, .text "in ", .reference "colour", .text " stock",
      .element secondSizes, .element emptyNote] }

/-- Sizes are lists, and notes are always items of arrays. -/
def orderShape : InstanceShape where
  readsTexts := true
  readsAttributes := true
  isArray := fun name _ => name = "note"
  listPaths := ["order.size"]

theorem orderRoot_namesAreKeys : orderRoot.NamesAreKeys :=
  Element.namesAreKeys_of_flat (by decide) (by decide)

theorem orderRoot_attributesDistinct : orderRoot.AttributesDistinct := by
  have hdistinct : ∀ x ∈ orderRoot :: orderRoot.children,
      (x.attributes.map fun a => a.1.localName).Nodup := by decide
  intro names x hx
  exact hdistinct x (hx.mem_of_flat (by decide))

theorem treeValue_orderRoot : orderShape.treeValue orderRoot =
    .ok [("order", .obj [("@_id", .int 7), ("size", .arr [.arr [.int 1, .int 2], .arr [.int 3]]),
      ("note", .arr [.str ""]), ("#text", .str "in  stock")])] := rfl

/-- The sizes of both elements stay apart, and the single note is in an array. -/
theorem objects_gather_parts_orderRoot :
    orderRoot.NamesAreKeys ∧ orderRoot.AttributesDistinct ∧
      ∃ fields, orderShape.elementValue "order" orderRoot = .ok (.obj fields) ∧
        orderShape.GathersParts "order" orderRoot fields := by
  refine ⟨orderRoot_namesAreKeys, orderRoot_attributesDistinct, ?_⟩
  rcases objects_gather_parts orderShape orderRoot_namesAreKeys orderRoot_attributesDistinct with
    ⟨herror, -⟩ | ⟨-, h⟩
  · rw [treeValue_orderRoot] at herror
    cases herror
  · have hattributes : orderRoot.attributes ≠ [] := List.cons_ne_nil _ _
    exact h ["order"] orderRoot .root (Or.inl hattributes)

end InstanceShape

end SchemaBridge
