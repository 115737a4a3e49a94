import Mathlib.Data.List.Forall2
import SchemaBridge.Instance.Values
import SchemaBridge.Proofs.Fields

/-!
# What the value of an element holds

The value of an element is an object exactly when the element has an attribute or a child element
(`exists_obj_of_elementValue`, `ne_obj_of_elementValue`); otherwise it is the text. In the object an
attribute has a field, the text has one when it is not empty, and the children of one name share a
field, which holds their values in order (`exists_fields_of_elementValue`).

The fields are filled by loops over attributes and content. What a loop does to the field of one name
depends on the pieces of that name only (`isSome_attributeSlots`, `exists_childSlots`).

Reading fails for one reason: a whole number with too many digits (`elementValue_error`).
-/

set_option autoImplicit false

namespace SchemaBridge

/-! ## Results -/

section Results

variable {α β : Type}

theorem bind_eq_ok_iff {result : Except Failure α} {next : α → Except Failure β} {b : β} :
    result >>= next = .ok b ↔ ∃ a, result = .ok a ∧ next a = .ok b := by
  cases result <;> simp [bind, Except.bind]

theorem bind_eq_error_iff {result : Except Failure α} {next : α → Except Failure β}
    {failure : Failure} :
    result >>= next = .error failure ↔
      result = .error failure ∨ ∃ a, result = .ok a ∧ next a = .error failure := by
  cases result <;> simp [bind, Except.bind]

theorem map_eq_ok_iff {result : Except Failure α} {f : α → β} {b : β} :
    result.map f = .ok b ↔ ∃ a, result = .ok a ∧ f a = b := by
  cases result <;> simp [Except.map]

theorem map_eq_error_iff {result : Except Failure α} {f : α → β} {failure : Failure} :
    result.map f = .error failure ↔ result = .error failure := by
  cases result <;> simp [Except.map]

theorem mapM_eq_ok_iff {f : α → Except Failure β} {list : List α} {values : List β} :
    list.mapM f = .ok values ↔ List.Forall₂ (fun a b => f a = .ok b) list values := by
  induction list generalizing values with
  | nil =>
      rw [List.mapM_nil, List.forall₂_nil_left_iff]
      exact ⟨fun h => (Except.ok.inj h).symm, fun h => h ▸ rfl⟩
  | cons first rest ih =>
      rw [List.mapM_cons, bind_eq_ok_iff, List.forall₂_cons_left_iff]
      constructor
      · rintro ⟨b, hfirst, h⟩
        obtain ⟨bs, hrest, hvalues⟩ := bind_eq_ok_iff.1 h
        exact ⟨b, bs, hfirst, ih.1 hrest, (Except.ok.inj hvalues).symm⟩
      · rintro ⟨b, bs, hfirst, hrest, rfl⟩
        exact ⟨b, hfirst, bind_eq_ok_iff.2 ⟨bs, ih.2 hrest, rfl⟩⟩

/-- Values in order of what they are the values of: each of them is one, and none is missing. -/
theorem mem_values_iff {f : α → Except Failure β} {list : List α} {values : List β}
    (h : List.Forall₂ (fun a b => f a = .ok b) list values) {b : β} :
    b ∈ values ↔ ∃ a ∈ list, f a = .ok b := by
  induction h with
  | nil => simp
  | cons hfirst _ ih =>
      rw [List.mem_cons, List.exists_mem_cons_iff, ← ih, hfirst, Except.ok.injEq, eq_comm]

end Results

namespace Xml

/-- The child elements of a content, in order. -/
def childElements (content : List Content) : List Element :=
  content.filterMap fun
    | .element child => some child
    | .text _ | .reference _ => none

/-- The child elements of an element, in order. -/
def Element.children (x : Element) : List Element := childElements x.content

/-- The elements of a list that have a local name. -/
def named (name : String) (elements : List Element) : List Element :=
  elements.filter fun x => x.name.localName = name

theorem named_cons_self (child : Element) (rest : List Content) :
    named child.name.localName (childElements (.element child :: rest)) =
      child :: named child.name.localName (childElements rest) := by
  simp [named, childElements]

theorem named_cons_of_ne {child : Element} {name : String} (rest : List Content)
    (h : child.name.localName ≠ name) :
    named name (childElements (.element child :: rest)) = named name (childElements rest) := by
  simp [named, childElements, h]

end Xml

namespace InstanceShape

open Xml

variable {shape : InstanceShape} {path : String}

/-! ## Attributes -/

/-- Attributes give a field to their own names and take none away. -/
theorem isSome_attributeSlots {attributes : List (Name × String)} {slots result : Fields Slot}
    (h : shape.attributeSlots slots attributes = .ok result) (key : String) :
    (result.value? key).isSome ↔ (slots.value? key).isSome ∨
      ∃ a ∈ attributes, Xsd.attributeMark ++ a.1.localName = key := by
  induction attributes generalizing slots with
  | nil =>
      rw [attributeSlots, Except.ok.injEq] at h
      simp [h]
  | cons first rest ih =>
      obtain ⟨name, text⟩ := first
      rw [attributeSlots, bind_eq_ok_iff] at h
      obtain ⟨value, -, h⟩ := h
      rw [ih h, Fields.value?_put]
      simp only [List.mem_cons, exists_eq_or_imp]
      by_cases hkey : Xsd.attributeMark ++ name.localName = key <;> simp [hkey]

/-! ## Children -/

/-- The field of one name after children with the given values. -/
def slotAfter (isArray : Bool) (slot? : Option Slot) (values : List Json) : Option Slot :=
  values.foldl (fun slot? value => some (Slot.add slot? isArray value)) slot?

theorem slotAfter_cons (isArray : Bool) (slot? : Option Slot) (value : Json) (rest : List Json) :
    slotAfter isArray slot? (value :: rest) =
      slotAfter isArray (some (Slot.add slot? isArray value)) rest := rfl

theorem slotAfter_many (isArray : Bool) (first values : List Json) :
    slotAfter isArray (some (.many first)) values = some (.many (first ++ values)) := by
  induction values generalizing first with
  | nil => simp [slotAfter]
  | cons value rest ih =>
      rw [slotAfter_cons, Slot.add, ih, List.append_assoc, List.singleton_append]

/-- The field that children have to themselves: none without children, an array of all their values
where an array is asked for, and otherwise a single value or an array of several. -/
theorem slotAfter_none (isArray : Bool) (values : List Json) :
    slotAfter isArray none values =
      match values with
      | [] => none
      | [value] => some (if isArray then .many [value] else .one value)
      | first :: second :: rest => some (.many (first :: second :: rest)) := by
  match values with
  | [] => rfl
  | [value] => cases isArray <;> rfl
  | first :: second :: rest =>
      cases isArray with
      | true => exact slotAfter_many true [first] (second :: rest)
      | false => exact slotAfter_many false [first, second] rest

theorem isSome_slotAfter {isArray : Bool} {slot? : Option Slot} {values : List Json} :
    (slotAfter isArray slot? values).isSome ↔ slot?.isSome ∨ values ≠ [] := by
  induction values generalizing slot? with
  | nil => simp [slotAfter]
  | cons value rest ih => simp [slotAfter_cons, ih]

/-- Elements have values, in order. -/
def ValuesAt (shape : InstanceShape) (path : String) (elements : List Element)
    (values : List Json) : Prop :=
  List.Forall₂ (fun x value => shape.elementValue path x = .ok value) elements values

theorem ValuesAt.eq_nil_iff {elements : List Element} {values : List Json}
    (h : shape.ValuesAt path elements values) : values = [] ↔ elements = [] := by
  cases h <;> simp

/-- A value is that of one of the elements. -/
theorem ValuesAt.exists_of_mem {elements : List Element} {values : List Json}
    (h : shape.ValuesAt path elements values) {value : Json} (hvalue : value ∈ values) :
    ∃ x ∈ elements, shape.elementValue path x = .ok value :=
  (mem_values_iff h).1 hvalue

/-- **Children of one name fill one field**, whatever stands between them. -/
theorem exists_childSlots {content : List Content} {slots result : Fields Slot}
    (h : shape.childSlots path slots content = .ok result) (name : String) :
    ∃ values, shape.ValuesAt (path ++ "." ++ name) (named name (childElements content)) values ∧
      result.value? name =
        slotAfter (shape.isArray name (path ++ "." ++ name)) (slots.value? name) values := by
  induction content generalizing slots with
  | nil =>
      rw [childSlots, Except.ok.injEq] at h
      exact ⟨[], List.Forall₂.nil, by rw [h]; rfl⟩
  | cons piece rest ih =>
      rw [childSlots, bind_eq_ok_iff] at h
      obtain ⟨next, hnext, h⟩ := h
      obtain ⟨values, hvalues, hresult⟩ := ih h
      cases piece with
      | text text =>
          rw [childSlot, Except.ok.injEq] at hnext
          exact ⟨values, hvalues, hnext ▸ hresult⟩
      | reference entity =>
          rw [childSlot, Except.ok.injEq] at hnext
          exact ⟨values, hvalues, hnext ▸ hresult⟩
      | element child =>
          rw [childSlot, bind_eq_ok_iff] at hnext
          obtain ⟨value, hvalue, hnext⟩ := hnext
          cases hnext
          rw [Fields.value?_put] at hresult
          by_cases hname : child.name.localName = name
          · -- The child comes first among those of its name.
            subst hname
            rw [if_pos rfl] at hresult
            rw [named_cons_self]
            exact ⟨value :: values, List.Forall₂.cons hvalue hvalues, hresult⟩
          · rw [if_neg hname] at hresult
            rw [named_cons_of_ne rest hname]
            exact ⟨values, hvalues, hresult⟩

/-! ## Fields of an element -/

/-- The fields of an element before its text is added: one for each name of an attribute, of a child,
or of both. -/
def FilledSlots (shape : InstanceShape) (path : String) (x : Element) (slots : Fields Slot) : Prop :=
  ∀ name, ∃ values attribute?,
    shape.ValuesAt (path ++ "." ++ name) (named name x.children) values ∧
    slots.value? name =
      slotAfter (shape.isArray name (path ++ "." ++ name)) attribute? values ∧
    (attribute?.isSome ↔ ∃ a ∈ x.attributes, Xsd.attributeMark ++ a.1.localName = name)

/-- The loops over attributes and content fill the fields. -/
theorem filledSlots_of_loops {x : Element} {slots result : Fields Slot}
    (hattributes : shape.attributeSlots [] x.attributes = .ok slots)
    (hchildren : shape.childSlots path slots x.content = .ok result) :
    shape.FilledSlots path x result := by
  intro key
  obtain ⟨values, hvalues, hresult⟩ := exists_childSlots hchildren key
  refine ⟨values, slots.value? key, hvalues, hresult, ?_⟩
  rw [isSome_attributeSlots hattributes]
  simp [Fields.value?]

theorem exists_filledSlots {x : Element} {value : Json}
    (h : shape.elementValue path x = .ok value) :
    ∃ slots, shape.FilledSlots path x slots ∧
      shape.assembled path slots (ownText x.content) = .ok value := by
  obtain ⟨name, attributes, content⟩ := x
  rw [elementValue, bind_eq_ok_iff] at h
  obtain ⟨slots, hattributes, h⟩ := h
  rw [bind_eq_ok_iff] at h
  obtain ⟨result, hchildren, h⟩ := h
  exact ⟨result, filledSlots_of_loops hattributes hchildren, h⟩

section FilledSlots

variable {x : Element} {slots : Fields Slot}

theorem FilledSlots.isSome_iff (h : shape.FilledSlots path x slots) (name : String) :
    (slots.value? name).isSome ↔
      (∃ a ∈ x.attributes, Xsd.attributeMark ++ a.1.localName = name) ∨
        named name x.children ≠ [] := by
  obtain ⟨values, attribute?, hvalues, hslot, hattribute⟩ := h name
  rw [hslot, isSome_slotAfter, hattribute, Ne, hvalues.eq_nil_iff]

/-- An element has no field exactly when it has neither attributes nor children. -/
theorem FilledSlots.eq_nil_iff (h : shape.FilledSlots path x slots) :
    slots = [] ↔ x.attributes = [] ∧ x.children = [] := by
  constructor
  · rintro rfl
    constructor
    · refine List.eq_nil_iff_forall_not_mem.2 fun a ha => ?_
      have hsome := (h.isSome_iff (Xsd.attributeMark ++ a.1.localName)).2 (Or.inl ⟨a, ha, rfl⟩)
      cases hsome
    · refine List.eq_nil_iff_forall_not_mem.2 fun child hchild => ?_
      have hmem : child ∈ named child.name.localName x.children :=
        List.mem_filter.2 ⟨hchild, by simp⟩
      have hsome := (h.isSome_iff child.name.localName).2 (Or.inr (List.ne_nil_of_mem hmem))
      cases hsome
  · rintro ⟨hattributes, hchildren⟩
    refine List.eq_nil_iff_forall_not_mem.2 fun slot hslot => ?_
    have hsome : (slots.value? slot.1).isSome := by
      cases hvalue : slots.value? slot.1 with
      | some value => rfl
      | none =>
          exact absurd (List.mem_map.2 ⟨slot, hslot, rfl⟩) ((Fields.value?_eq_none_iff ..).1 hvalue)
    rcases (h.isSome_iff slot.1).1 hsome with ⟨a, ha, -⟩ | hne
    · rw [hattributes] at ha
      cases ha
    · exact absurd (by rw [hchildren]; rfl) hne

end FilledSlots

/-! ## Objects -/

section Objects

variable {x : Element} {value : Json}

/-- The key of an attribute is not that of a text. -/
theorem attributeMark_append_ne_textKey (name : String) :
    Xsd.attributeMark ++ name ≠ textKey := by
  intro heq
  have hlist := congrArg String.toList heq
  rw [String.toList_append] at hlist
  cases hlist

/-- An empty text that is no list stays a text. -/
theorem textValue_nil (hlist : path ∉ shape.listPaths) :
    shape.textValue path [] = .ok (.str "") := by
  rw [textValue, if_neg (by simpa using hlist)]
  simp [scalarValue]

/-- The fields of a value that is put together from fields and a text. -/
theorem exists_fields_and_text {slots : Fields Slot} {text : List Char}
    (h : shape.assembled path slots text = .ok value) (hslots : slots ≠ []) :
    ∃ fields : Fields Json, ∃ content, value = .obj fields ∧
      shape.textValue path text = .ok content ∧
      fields = if text ≠ [] ∨ path ∈ shape.listPaths then
          Fields.put (slots.map fun slot => (slot.1, slot.2.toJson)) textKey content
        else slots.map fun slot => (slot.1, slot.2.toJson) := by
  have hcondition : (!text.isEmpty || shape.listPaths.contains path) = true ↔
      text ≠ [] ∨ path ∈ shape.listPaths := by simp
  unfold assembled at h
  rw [if_neg (by simpa using hslots)] at h
  simp only [if_congr hcondition rfl rfl] at h
  split at h
  · next hplaced =>
      obtain ⟨content, hcontent, rfl⟩ := map_eq_ok_iff.1 h
      exact ⟨_, content, rfl, hcontent, (if_pos hplaced).symm⟩
  · next hleft =>
      cases h
      obtain ⟨hempty, hlist⟩ := not_or.1 hleft
      refine ⟨_, .str "", rfl, ?_, (if_neg hleft).symm⟩
      rw [not_not.1 hempty, textValue_nil hlist]

/-- Apart from the text, a field has the value of its slot. -/
theorem value?_fields_and_text {slots : Fields Slot} {content : Json} {placed : Prop}
    [Decidable placed] {key : String} (hkey : key ≠ textKey) :
    Fields.value? (if placed then
        Fields.put (slots.map fun slot => (slot.1, slot.2.toJson)) textKey content
      else slots.map fun slot => (slot.1, slot.2.toJson)) key =
        (slots.value? key).map Slot.toJson := by
  split
  · rw [Fields.value?_put_of_ne _ _ hkey, Fields.value?_map]
  · exact Fields.value?_map ..

theorem nodup_fields_and_text {slots : Fields Slot} {content : Json} {placed : Prop}
    [Decidable placed] (hslots : (Fields.names slots).Nodup) :
    (Fields.names (if placed then
        Fields.put (slots.map fun slot => (slot.1, slot.2.toJson)) textKey content
      else slots.map fun slot => (slot.1, slot.2.toJson))).Nodup := by
  have hnames : Fields.names (slots.map fun slot => (slot.1, slot.2.toJson)) =
      Fields.names slots := by
    simp [Fields.names, Function.comp_def]
  split
  · exact Fields.nodup_names_put (hnames ▸ hslots) _ _
  · exact hnames ▸ hslots

/-- The value of an element with fields: its fields with the text among them. -/
theorem exists_fields_of_assembled {slots : Fields Slot} {text : List Char}
    (h : shape.assembled path slots text = .ok value) (hslots : slots ≠ []) :
    ∃ fields : Fields Json, value = .obj fields ∧
      (∀ name, name ≠ textKey → fields.value? name = (slots.value? name).map Slot.toJson) ∧
      (text ≠ [] → (fields.value? textKey).isSome) := by
  obtain ⟨fields, content, rfl, -, hfields⟩ := exists_fields_and_text h hslots
  refine ⟨fields, rfl, fun name hname => ?_, fun htext => ?_⟩
  · rw [hfields]
    exact value?_fields_and_text hname
  · rw [hfields, if_pos (Or.inl htext), Fields.value?_put_self]
    rfl

/-- **An element with an attribute or a child is an object**, with a field for each attribute, one for
the text when that is not empty, and one for the children of each name. -/
theorem exists_fields_of_elementValue (h : shape.elementValue path x = .ok value)
    (hparts : x.attributes ≠ [] ∨ x.children ≠ []) :
    ∃ fields : Fields Json, value = .obj fields ∧
      (∀ a ∈ x.attributes, (fields.value? (Xsd.attributeMark ++ a.1.localName)).isSome) ∧
      (ownText x.content ≠ [] → (fields.value? textKey).isSome) ∧
      ∀ name, name ≠ textKey → (∀ text, name ≠ Xsd.attributeMark ++ text) → ∃ values,
        shape.ValuesAt (path ++ "." ++ name) (named name x.children) values ∧
        fields.value? name =
          (slotAfter (shape.isArray name (path ++ "." ++ name)) none values).map Slot.toJson := by
  obtain ⟨slots, hslots, hassembled⟩ := exists_filledSlots h
  have hne : slots ≠ [] := by
    intro hnil
    obtain ⟨hattributes, hchildren⟩ := hslots.eq_nil_iff.1 hnil
    exact hparts.elim (absurd hattributes) (absurd hchildren)
  obtain ⟨fields, rfl, hfields, htext⟩ := exists_fields_of_assembled hassembled hne
  refine ⟨fields, rfl, fun a ha => ?_, htext, fun name hname hmarked => ?_⟩
  · rw [hfields _ (attributeMark_append_ne_textKey _), Option.isSome_map]
    exact (hslots.isSome_iff _).2 (Or.inl ⟨a, ha, rfl⟩)
  · obtain ⟨values, attribute?, hvalues, hslot, hattribute⟩ := hslots name
    -- No attribute has the name, so the field belongs to the children.
    have hnone : attribute? = none := by
      cases attribute? with
      | none => rfl
      | some slot =>
          obtain ⟨a, -, heq⟩ := hattribute.1 rfl
          exact absurd heq.symm (hmarked _)
    rw [hnone] at hslot
    exact ⟨values, hvalues, by rw [hfields name hname, hslot]⟩

/-- The value of an element without attributes and children is that of its text. -/
theorem textValue_of_elementValue (h : shape.elementValue path x = .ok value)
    (hattributes : x.attributes = []) (hchildren : x.children = []) :
    shape.textValue path (ownText x.content) = .ok value := by
  obtain ⟨slots, hslots, hassembled⟩ := exists_filledSlots h
  rw [hslots.eq_nil_iff.2 ⟨hattributes, hchildren⟩] at hassembled
  exact hassembled

theorem scalarValue_ne_obj {reads : Bool} {text : String}
    (h : scalarValue reads text = .ok value) (fields : List (String × Json)) :
    value ≠ .obj fields := by
  rintro rfl
  unfold scalarValue at h
  split at h
  · obtain ⟨scalar, -, hscalar⟩ := map_eq_ok_iff.1 h
    cases scalar with
    | number number => cases number <;> cases hscalar
    | _ => cases hscalar
  · cases h

/-- **An element with neither attributes nor children is no object.** -/
theorem ne_obj_of_elementValue (h : shape.elementValue path x = .ok value)
    (hattributes : x.attributes = []) (hchildren : x.children = [])
    (fields : List (String × Json)) : value ≠ .obj fields := by
  have htext := textValue_of_elementValue h hattributes hchildren
  unfold textValue at htext
  split at htext
  · obtain ⟨words, -, rfl⟩ := map_eq_ok_iff.1 htext
    exact fun heq => nomatch heq
  · exact scalarValue_ne_obj htext fields

/-- At a list path an element with neither attributes nor children is a list. -/
theorem exists_arr_of_elementValue (h : shape.elementValue path x = .ok value)
    (hattributes : x.attributes = []) (hchildren : x.children = [])
    (hlist : path ∈ shape.listPaths) : ∃ values, value = .arr values := by
  have htext := textValue_of_elementValue h hattributes hchildren
  unfold textValue at htext
  rw [if_pos (List.contains_iff_mem.2 hlist)] at htext
  obtain ⟨words, -, rfl⟩ := map_eq_ok_iff.1 htext
  exact ⟨words, rfl⟩

end Objects

/-! ## Failures -/

theorem scalarValue_error {reads : Bool} {text : String} {failure : Failure}
    (h : scalarValue reads text = .error failure) : failure = .integerTooLong := by
  unfold scalarValue at h
  split at h
  · rw [map_eq_error_iff] at h
    unfold Scalar.ofText at h
    split at h
    · cases h
    · split at h
      · cases h
      · split at h
        · rw [map_eq_error_iff] at h
          unfold Scalar.ofNumeral at h
          split at h
          · split at h
            · exact (Except.error.inj h).symm
            · cases h
          · cases h
        · cases h
  · cases h

theorem mapM_error {α β : Type} {f : α → Except Failure β} {list : List α} {failure : Failure}
    (h : list.mapM f = .error failure) : ∃ a ∈ list, f a = .error failure := by
  induction list with
  | nil => cases h
  | cons first rest ih =>
      rw [List.mapM_cons, bind_eq_error_iff] at h
      rcases h with h | ⟨b, -, h⟩
      · exact ⟨first, List.mem_cons_self .., h⟩
      · rcases bind_eq_error_iff.1 h with h | ⟨bs, -, h⟩
        · obtain ⟨a, ha, hfailure⟩ := ih h
          exact ⟨a, List.mem_cons_of_mem _ ha, hfailure⟩
        · cases h

theorem textValue_error {text : List Char} {failure : Failure}
    (h : shape.textValue path text = .error failure) : failure = .integerTooLong := by
  unfold textValue at h
  split at h
  · obtain ⟨word, -, hword⟩ := mapM_error (map_eq_error_iff.1 h)
    exact scalarValue_error hword
  · exact scalarValue_error h

theorem attributeSlots_error {attributes : List (Name × String)} {slots : Fields Slot}
    {failure : Failure} (h : shape.attributeSlots slots attributes = .error failure) :
    failure = .integerTooLong := by
  induction attributes generalizing slots with
  | nil => cases h
  | cons first rest ih =>
      rw [attributeSlots, bind_eq_error_iff] at h
      rcases h with h | ⟨value, -, h⟩
      · unfold attributeValue at h
        split at h
        · exact scalarValue_error h
        · cases h
      · exact ih h

theorem assembled_error {slots : Fields Slot} {text : List Char} {failure : Failure}
    (h : shape.assembled path slots text = .error failure) : failure = .integerTooLong := by
  unfold assembled at h
  split at h
  · exact textValue_error h
  · simp only at h
    split at h
    · exact textValue_error (map_eq_error_iff.1 h)
    · cases h

mutual

/-- **Reading an element fails only at a whole number with too many digits.** -/
theorem elementValue_error {failure : Failure} (path : String) :
    ∀ x : Element, shape.elementValue path x = .error failure → failure = .integerTooLong
  | ⟨_, attributes, content⟩, h => by
      rw [elementValue, bind_eq_error_iff] at h
      rcases h with h | ⟨slots, -, h⟩
      · exact attributeSlots_error h
      · rcases bind_eq_error_iff.1 h with h | ⟨result, -, h⟩
        · exact childSlots_error path slots content h
        · exact assembled_error h

theorem childSlots_error {failure : Failure} (path : String) (slots : Fields Slot) :
    ∀ content : List Content, shape.childSlots path slots content = .error failure →
      failure = .integerTooLong
  | [], h => by cases h
  | piece :: rest, h => by
      rw [childSlots, bind_eq_error_iff] at h
      rcases h with h | ⟨next, -, h⟩
      · exact childSlot_error path slots piece h
      · exact childSlots_error path next rest h

theorem childSlot_error {failure : Failure} (path : String) (slots : Fields Slot) :
    ∀ piece : Content, shape.childSlot path slots piece = .error failure →
      failure = .integerTooLong
  | .text _, h => by cases h
  | .reference _, h => by cases h
  | .element child, h => by
      rw [childSlot, bind_eq_error_iff] at h
      rcases h with h | ⟨value, -, h⟩
      · exact elementValue_error _ child h
      · cases h

end

end InstanceShape

end SchemaBridge
