import SchemaBridge.Proofs.Instance.PlainValues
import SchemaBridge.Proofs.Instance.Wrapping
import SchemaBridge.Proofs.Scalar.Limits

/-!
# Trees that have a value

Reading a tree can fail at the texts that are read as scalars only: the values of attributes, the
texts of elements and, at list paths, the words of those (`InstanceShape.scalarTexts`). One element
has a value exactly when none of its own such texts is overlong and each of its children has one
(`exists_elementValue_iff`). So a whole tree either has a value or holds an overlong text somewhere
(`treeValue_cases`); which fields become arrays makes no difference.
-/

set_option autoImplicit false

namespace SchemaBridge

namespace InstanceShape

open Xml

variable {shape : InstanceShape} {path : String}

/-! ## One element -/

theorem exists_scalarValue_iff {reads : Bool} {text : String} :
    (∃ value, scalarValue reads text = .ok value) ↔ (reads = true → ¬ Scalar.IsOverlong text) := by
  cases reads with
  | false => exact ⟨fun _ => nofun, fun _ => ⟨_, rfl⟩⟩
  | true =>
      have hvalue : scalarValue true text = (Scalar.ofText text).map Scalar.toJson := rfl
      rw [hvalue]
      cases hread : Scalar.ofText text with
      | error failure =>
          have hlong := (Scalar.ofText_eq_error_iff.1 hread).2
          constructor
          · rintro ⟨value, h⟩
            cases h
          · intro h
            exact absurd hlong (h rfl)
      | ok scalar =>
          constructor
          · intro _ _
            exact Scalar.not_isOverlong_of_ofText hread
          · intro _
            exact ⟨_, rfl⟩

theorem exists_mapM_iff {α β : Type} {f : α → Except Failure β} {list : List α} :
    (∃ values, list.mapM f = .ok values) ↔ ∀ a ∈ list, ∃ b, f a = .ok b := by
  induction list with
  | nil => exact ⟨fun _ => nofun, fun _ => ⟨[], rfl⟩⟩
  | cons first rest ih =>
      simp only [List.mapM_cons, bind_eq_ok_iff, List.forall_mem_cons, ← ih]
      constructor
      · rintro ⟨_, b, hfirst, bs, hrest, -⟩
        exact ⟨⟨b, hfirst⟩, bs, hrest⟩
      · rintro ⟨⟨b, hfirst⟩, bs, hrest⟩
        exact ⟨_, b, hfirst, bs, hrest, rfl⟩

/-- The words of a text at a list path, and the text as a whole anywhere else. -/
def textPieces (shape : InstanceShape) (path : String) (text : List Char) : List String :=
  if shape.listPaths.contains path then (Text.words text).map String.ofList
  else [String.ofList text]

theorem not_isOverlong_empty : ¬ Scalar.IsOverlong "" :=
  Scalar.not_isOverlong_of_ofText (rfl : Scalar.ofText "" = .ok (.text ""))

/-- The text of an element has a value unless a piece of it is overlong. -/
theorem exists_textValue_iff {text : List Char} :
    (∃ value, shape.textValue path text = .ok value) ↔
      (shape.readsTexts = true → ∀ t ∈ shape.textPieces path text, ¬ Scalar.IsOverlong t) := by
  unfold textValue textPieces
  cases hlist : shape.listPaths.contains path with
  | true =>
      have hwords : ∀ {result : Except Failure (List Json)},
          (∃ value, result.map Json.arr = .ok value) ↔ ∃ values, result = .ok values := by
        intro result
        cases result <;> simp [Except.map]
      simp only [if_true, hwords, exists_mapM_iff, exists_scalarValue_iff, List.forall_mem_map]
      exact ⟨fun h hreads t ht => h t ht hreads, fun h t ht hreads => h hreads t ht⟩
  | false =>
      simp only [Bool.false_eq_true, if_false, exists_scalarValue_iff, List.mem_singleton,
        forall_eq]
      cases text with
      | nil => exact ⟨fun _ _ => not_isOverlong_empty, fun _ _ => not_isOverlong_empty⟩
      | cons c rest => simp

theorem exists_attributeSlots_iff {attributes : List (Name × String)} {slots : Fields Slot} :
    (∃ result, shape.attributeSlots slots attributes = .ok result) ↔
      ∀ a ∈ attributes, ∃ value, shape.attributeValue a.2 = .ok value := by
  induction attributes generalizing slots with
  | nil => exact ⟨fun _ => nofun, fun _ => ⟨slots, rfl⟩⟩
  | cons first rest ih =>
      obtain ⟨name, text⟩ := first
      simp only [attributeSlots, bind_eq_ok_iff, List.forall_mem_cons]
      constructor
      · rintro ⟨result, value, hfirst, hrest⟩
        exact ⟨⟨value, hfirst⟩, ih.1 ⟨result, hrest⟩⟩
      · rintro ⟨⟨value, hfirst⟩, hrest⟩
        obtain ⟨result, hresult⟩ := ih.2 hrest
        exact ⟨result, value, hfirst, hresult⟩

theorem exists_attributeValue_iff {text : String} :
    (∃ value, shape.attributeValue text = .ok value) ↔ (shape.readsAttributes = true →
      ¬ Scalar.IsOverlong (String.ofList (Text.strip text.toList))) := by
  unfold attributeValue
  split
  · next hreads => simp [exists_scalarValue_iff, hreads]
  · next hplain => simp [hplain]

/-- Text that is left out has a value as well. -/
theorem exists_assembled_iff {slots : Fields Slot} {text : List Char} :
    (∃ value, shape.assembled path slots text = .ok value) ↔
      ∃ value, shape.textValue path text = .ok value := by
  unfold assembled
  split
  · exact Iff.rfl
  · simp only
    split
    · cases shape.textValue path text <;> simp [Except.map]
    · next hempty =>
        have htext : text = [] ∧ path ∉ shape.listPaths := by simpa using hempty
        have hread : shape.textValue path text = .ok (.str "") := htext.1 ▸ textValue_nil htext.2
        exact ⟨fun _ => ⟨_, hread⟩, fun _ => ⟨_, rfl⟩⟩

theorem exists_childSlots_iff {content : List Content} {slots : Fields Slot} :
    (∃ result, shape.childSlots path slots content = .ok result) ↔
      ∀ y ∈ childElements content,
        ∃ value, shape.elementValue (path ++ "." ++ y.name.localName) y = .ok value := by
  induction content generalizing slots with
  | nil => exact ⟨fun _ => nofun, fun _ => ⟨slots, by rw [childSlots]⟩⟩
  | cons piece rest ih =>
      simp only [childSlots, bind_eq_ok_iff]
      cases piece with
      | text text =>
          simp only [childSlot, Except.ok.injEq, exists_eq_left']
          exact ih
      | reference entity =>
          simp only [childSlot, Except.ok.injEq, exists_eq_left']
          exact ih
      | element child =>
          have hmem : childElements (.element child :: rest) = child :: childElements rest := rfl
          rw [hmem, List.forall_mem_cons]
          simp only [childSlot, bind_eq_ok_iff]
          constructor
          · rintro ⟨result, next, ⟨value, hvalue, -⟩, hrest⟩
            exact ⟨⟨value, hvalue⟩, ih.1 ⟨result, hrest⟩⟩
          · rintro ⟨⟨value, hvalue⟩, hrest⟩
            obtain ⟨result, hresult⟩ := ih.2 hrest
            exact ⟨result, _, ⟨value, hvalue, rfl⟩, hresult⟩

/-- The texts of an element that are read as scalars. -/
def scalarTexts (shape : InstanceShape) (path : String) (x : Element) : List String :=
  (if shape.readsAttributes then
    x.attributes.map fun a => String.ofList (Text.strip a.2.toList) else []) ++
  (if shape.readsTexts then shape.textPieces path (ownText x.content) else [])

theorem forall_mem_ite_nil {α : Type} {reads : Bool} {list : List α} {holds : α → Prop} :
    (∀ a ∈ if reads then list else [], holds a) ↔ (reads = true → ∀ a ∈ list, holds a) := by
  cases reads <;> simp

/-- **An element has a value** unless one of its own texts is overlong or a child has none. -/
theorem exists_elementValue_iff {x : Element} :
    (∃ value, shape.elementValue path x = .ok value) ↔
      (∀ t ∈ shape.scalarTexts path x, ¬ Scalar.IsOverlong t) ∧
        ∀ y ∈ x.children,
          ∃ value, shape.elementValue (path ++ "." ++ y.name.localName) y = .ok value := by
  obtain ⟨name, attributes, content⟩ := x
  have hparts : (∃ value, shape.elementValue path ⟨name, attributes, content⟩ = .ok value) ↔
      (∀ a ∈ attributes, ∃ value, shape.attributeValue a.2 = .ok value) ∧
        (∀ y ∈ childElements content,
          ∃ value, shape.elementValue (path ++ "." ++ y.name.localName) y = .ok value) ∧
        ∃ value, shape.textValue path (ownText content) = .ok value := by
    simp only [elementValue, bind_eq_ok_iff]
    constructor
    · rintro ⟨value, slots, hslots, result, hresult, hvalue⟩
      exact ⟨exists_attributeSlots_iff.1 ⟨slots, hslots⟩, exists_childSlots_iff.1 ⟨result, hresult⟩,
        exists_assembled_iff.1 ⟨value, hvalue⟩⟩
    · rintro ⟨hattributes, hchildren, htext⟩
      obtain ⟨slots, hslots⟩ := exists_attributeSlots_iff.2 hattributes
      obtain ⟨result, hresult⟩ := exists_childSlots_iff.2 hchildren
      obtain ⟨value, hvalue⟩ := exists_assembled_iff.2 htext
      exact ⟨value, slots, hslots, result, hresult, hvalue⟩
  have htexts : (∀ t ∈ shape.scalarTexts path ⟨name, attributes, content⟩, ¬ Scalar.IsOverlong t) ↔
      (∀ a ∈ attributes, ∃ value, shape.attributeValue a.2 = .ok value) ∧
        ∃ value, shape.textValue path (ownText content) = .ok value := by
    simp only [exists_attributeValue_iff, exists_textValue_iff, scalarTexts, List.forall_mem_append,
      forall_mem_ite_nil, List.forall_mem_map]
    exact and_congr_left fun _ => ⟨fun h a ha hreads => h hreads a ha,
      fun h hreads a ha => h a ha hreads⟩
  rw [hparts, htexts, and_assoc, and_comm (b := ∃ value, shape.textValue path _ = .ok value)]
  rfl

/-! ## Whole trees -/

/-- A text is read as a scalar somewhere in a tree. -/
def ReadsIn (shape : InstanceShape) (root : Element) (text : String) : Prop :=
  ∃ names x, root.StandsAt names x ∧ text ∈ shape.scalarTexts (joinedPath names) x

/-- Where no text is overlong, every element has a value. The induction goes down the tree. -/
theorem exists_elementValue_of_readable {root : Element}
    (h : ∀ text, shape.ReadsIn root text → ¬ Scalar.IsOverlong text) {names : List String}
    (x : Element) (hx : root.StandsAt names x) :
    ∃ value, shape.elementValue (joinedPath names) x = .ok value := by
  refine exists_elementValue_iff.2 ⟨fun t ht => h t ⟨names, x, hx, ht⟩, fun y hy => ?_⟩
  have hsmaller := Element.sizeOf_lt_of_mem_children hy
  have hvalue := exists_elementValue_of_readable h y (hx.child hy)
  rwa [joinedPath_append hx.path_ne_nil] at hvalue
termination_by sizeOf x

theorem exists_elementValue_root_iff {root : Element} :
    (∃ value, shape.elementValue root.name.localName root = .ok value) ↔
      ∀ text, shape.ReadsIn root text → ¬ Scalar.IsOverlong text := by
  constructor
  · rintro ⟨value, hroot⟩ text ⟨names, x, hx, htext⟩
    have hvalue := exists_elementValue_of_standsAt hroot hx
    exact (exists_elementValue_iff.1 hvalue).1 text htext
  · intro h
    exact exists_elementValue_of_readable h root .root

/-- **A tree has a value or holds an overlong text**, and not both. -/
theorem treeValue_cases (shape : InstanceShape) (root : Element) :
    (shape.treeValue root = .error .integerTooLong ∧
        ∃ text, shape.ReadsIn root text ∧ Scalar.IsOverlong text) ∨
      (∃ value, shape.treeValue root = .ok [(root.name.localName, value)] ∧
        shape.elementValue root.name.localName root = .ok value) ∧
        ∀ text, shape.ReadsIn root text → ¬ Scalar.IsOverlong text := by
  have htree : shape.treeValue root = (shape.elementValue root.name.localName root).bind
      fun value => .ok [(root.name.localName, value)] := rfl
  rw [htree]
  cases hroot : shape.elementValue root.name.localName root with
  | error failure =>
      left
      rw [elementValue_error _ _ hroot]
      refine ⟨rfl, ?_⟩
      have hnone : ¬ ∃ value, shape.elementValue root.name.localName root = .ok value := by
        rintro ⟨value, hvalue⟩
        rw [hroot] at hvalue
        cases hvalue
      rw [exists_elementValue_root_iff] at hnone
      obtain ⟨text, htext⟩ := not_forall.1 hnone
      obtain ⟨hreads, hlong⟩ := Classical.not_imp.1 htext
      exact ⟨text, hreads, not_not.1 hlong⟩
  | ok value =>
      right
      exact ⟨⟨value, rfl, rfl⟩, exists_elementValue_root_iff.1 ⟨value, hroot⟩⟩

theorem treeValue_eq_error_iff {root : Element} {failure : Failure} :
    shape.treeValue root = .error failure ↔
      failure = .integerTooLong ∧ ∃ text, shape.ReadsIn root text ∧ Scalar.IsOverlong text := by
  rcases shape.treeValue_cases root with ⟨herror, hlong⟩ | ⟨⟨value, htree, -⟩, hshort⟩
  · rw [herror, Except.error.injEq, eq_comm]
    exact ⟨fun h => ⟨h, hlong⟩, fun h => h.1⟩
  · rw [htree]
    refine ⟨nofun, ?_⟩
    rintro ⟨-, text, hreads, hlong⟩
    exact absurd hlong (hshort text hreads)

end InstanceShape

end SchemaBridge
