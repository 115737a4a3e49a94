import SchemaBridge.Proofs.Instance.Texts

/-!
# Values under other arrays

What a choice of arrays decides in the value of a tree. Children that share their local name form an
array anyway, so the choice shows at lone children only, where it puts a value into an array or
leaves it as it is. A value and the array of it differ (`ne_arr_singleton`), and nothing that stands
above a child hides it. So two choices give one tree the same value exactly when they agree about
its lone children (`treeValue_withArrays_eq_iff`), unless the tree has no value at all.
-/

set_option autoImplicit false

namespace SchemaBridge

open Xsd (IsElementKey)

/-- A child is the only one of its parent that has its local name. -/
structure Xml.Element.IsLone (x y : Xml.Element) : Prop where
  mem : y ∈ x.children
  alone : Xml.named y.name.localName x.children = [y]

namespace InstanceShape

open Xml

variable {shape : InstanceShape} {isArray : String → String → Bool} {path : String} {x : Element}

/-! ## Loops -/

/-- The arrays are not asked when attributes are read. -/
theorem attributeSlots_withArrays (slots : Fields Slot) (attributes : List (Name × String)) :
    (shape.withArrays isArray).attributeSlots slots attributes =
      shape.attributeSlots slots attributes := by
  induction attributes generalizing slots with
  | nil => rfl
  | cons first rest ih =>
      obtain ⟨name, text⟩ := first
      have hvalue : (shape.withArrays isArray).attributeValue text =
          shape.attributeValue text := rfl
      rw [attributeSlots, attributeSlots, hvalue]
      simp only [ih]

/-- The children alone decide which keys they add, and in which order. -/
theorem names_childSlots_eq {first second : InstanceShape} {content : List Content}
    {slots others result otherResult : Fields Slot}
    (h : first.childSlots path slots content = .ok result)
    (hother : second.childSlots path others content = .ok otherResult)
    (hnames : Fields.names slots = Fields.names others) :
    Fields.names result = Fields.names otherResult := by
  induction content generalizing slots others with
  | nil =>
      rw [childSlots, Except.ok.injEq] at h hother
      rw [← h, ← hother, hnames]
  | cons piece rest ih =>
      rw [childSlots, bind_eq_ok_iff] at h hother
      obtain ⟨next, hnext, h⟩ := h
      obtain ⟨otherNext, hotherNext, hother⟩ := hother
      apply ih h hother
      cases piece with
      | text text =>
          rw [childSlot, Except.ok.injEq] at hnext hotherNext
          rw [← hnext, ← hotherNext, hnames]
      | reference entity =>
          rw [childSlot, Except.ok.injEq] at hnext hotherNext
          rw [← hnext, ← hotherNext, hnames]
      | element child =>
          rw [childSlot, bind_eq_ok_iff] at hnext hotherNext
          obtain ⟨value, -, hput⟩ := hnext
          obtain ⟨otherValue, -, hotherPut⟩ := hotherNext
          cases hput
          cases hotherPut
          rw [Fields.names_put, Fields.names_put, hnames]

/-! ## Values of one name -/

theorem ValuesAt.exists_of_element {first second : InstanceShape} {elements : List Element}
    {values : List Json} (h : first.ValuesAt path elements values)
    (hother : second.ValuesAt path elements values) {y : Element} (hy : y ∈ elements) :
    ∃ value, first.elementValue path y = .ok value ∧ second.elementValue path y = .ok value := by
  induction h with
  | nil => cases hy
  | cons hfirst _ ih =>
      cases hother with
      | cons hsecond hrest =>
          rcases List.mem_cons.1 hy with rfl | hy
          · exact ⟨_, hfirst, hsecond⟩
          · exact ih hrest hy

theorem ValuesAt.eq_of_elements {first second : InstanceShape} {elements : List Element}
    {values others : List Json} (h : first.ValuesAt path elements values)
    (hother : second.ValuesAt path elements others)
    (heq : ∀ y ∈ elements, second.elementValue path y = first.elementValue path y) :
    values = others := by
  induction h generalizing others with
  | nil =>
      cases hother
      rfl
  | cons hfirst _ ih =>
      cases hother with
      | cons hsecond hrest =>
          have hhead := hsecond.symm.trans ((heq _ (List.mem_cons_self ..)).trans hfirst)
          cases hhead
          rw [ih hrest fun y hy => heq y (List.mem_cons_of_mem _ hy)]

/-- A value under one choice of arrays is never the array of the value under the other one. -/
theorem ne_arr_singleton {value other : Json} (h : shape.elementValue path x = .ok value)
    (hother : (shape.withArrays isArray).elementValue path x = .ok other)
    (hkeys : ∀ y ∈ x.children, IsElementKey y.name.localName) :
    value ≠ .arr [other] ∧ other ≠ .arr [value] := by
  have hself : ∀ content : Json, content ≠ .arr [content] := by
    intro content heq
    have hsize := congrArg sizeOf heq
    simp at hsize
    omega
  by_cases hparts : x.attributes ≠ [] ∨ x.children ≠ []
  · obtain ⟨fields, rfl, -⟩ := exists_holdsParts h hparts hkeys
    obtain ⟨others, rfl, -⟩ := exists_holdsParts hother hparts hkeys
    exact ⟨nofun, nofun⟩
  · -- The value of an element that is a text only depends on no arrays.
    have hnone := not_or.1 hparts
    have htext := textValue_of_elementValue h (not_not.1 hnone.1) (not_not.1 hnone.2)
    have hothers := textValue_of_elementValue hother (not_not.1 hnone.1) (not_not.1 hnone.2)
    have heq : value = other := Except.ok.inj (htext.symm.trans hothers)
    exact heq ▸ ⟨hself value, hself value⟩

/-- The field of a name shows the values of its children, and whether a lone one is in an array. -/
theorem slotAfter_none_inj {first second : Bool} {values others : List Json}
    (hlength : values.length = others.length)
    (hlone : ∀ value other, values = [value] → others = [other] →
      value ≠ .arr [other] ∧ other ≠ .arr [value])
    (h : (slotAfter first none values).map Slot.toJson =
      (slotAfter second none others).map Slot.toJson) :
    values = others ∧ (values.length = 1 → first = second) := by
  rw [slotAfter_none, slotAfter_none] at h
  match values, others, hlength with
  | [], [], _ => exact ⟨rfl, nofun⟩
  | [value], [other], _ =>
      obtain ⟨hvalue, hother⟩ := hlone value other rfl rfl
      cases first <;> cases second <;>
        simp only [Option.map_some, Bool.false_eq_true, if_true, if_false, Slot.toJson,
          Option.some.injEq] at h
      · exact ⟨by rw [h], fun _ => rfl⟩
      · exact absurd h hvalue
      · exact absurd h.symm hother
      · exact ⟨Json.arr.inj h, fun _ => rfl⟩
  | value :: next :: rest, other :: otherNext :: otherRest, _ =>
      simp only [Option.map_some, Slot.toJson, Option.some.injEq] at h
      exact ⟨Json.arr.inj h, fun hone => by simp at hone⟩

/-! ## One element -/

/-- The two choices ask for the same of the lone children of an element. -/
def AgreeBelow (first second : String → String → Bool) (path : String) (x : Element) : Prop :=
  ∀ y, x.IsLone y → first y.name.localName (path ++ "." ++ y.name.localName) =
    second y.name.localName (path ++ "." ++ y.name.localName)

section OneValue

variable {value : Json}

/-- What an object holds under the name of a child is the same for both choices: the values of the
children, and whether a lone one is in an array. -/
theorem exists_values_of_value_eq (h : shape.elementValue path x = .ok value)
    (hother : (shape.withArrays isArray).elementValue path x = .ok value)
    (hkeys : ∀ y ∈ x.children, IsElementKey y.name.localName)
    (hdeeper : ∀ y ∈ x.children, ∀ z ∈ y.children, IsElementKey z.name.localName) {y : Element}
    (hy : y ∈ x.children) :
    ∃ values,
      shape.ValuesAt (path ++ "." ++ y.name.localName) (named y.name.localName x.children) values ∧
        (shape.withArrays isArray).ValuesAt (path ++ "." ++ y.name.localName)
          (named y.name.localName x.children) values ∧
        (values.length = 1 → shape.isArray y.name.localName (path ++ "." ++ y.name.localName) =
          isArray y.name.localName (path ++ "." ++ y.name.localName)) := by
  have hparts : x.attributes ≠ [] ∨ x.children ≠ [] := Or.inr (List.ne_nil_of_mem hy)
  obtain ⟨fields, rfl, hfields⟩ := exists_holdsParts h hparts hkeys
  obtain ⟨others, hobject, hothers⟩ := exists_holdsParts hother hparts hkeys
  cases hobject
  obtain ⟨values, hvalues, hfield⟩ := hfields.children _ (hkeys y hy)
  obtain ⟨values', hvalues', hfield'⟩ := hothers.children _ (hkeys y hy)
  have hlength : values.length = values'.length :=
    hvalues.length_eq.symm.trans hvalues'.length_eq
  have hlone : ∀ value other, values = [value] → values' = [other] →
      value ≠ .arr [other] ∧ other ≠ .arr [value] := by
    rintro value other rfl rfl
    -- Both are values of one child.
    obtain ⟨z, zs, hvalue, -, hlist⟩ := List.forall₂_cons_right_iff.1 hvalues
    obtain ⟨z', zs', hvalue', -, hlist'⟩ := List.forall₂_cons_right_iff.1 hvalues'
    obtain ⟨rfl, -⟩ := List.cons.inj (hlist.symm.trans hlist')
    have hz : z ∈ named y.name.localName x.children := hlist ▸ List.mem_cons_self ..
    exact ne_arr_singleton hvalue hvalue' (hdeeper z (List.mem_filter.1 hz).1)
  obtain ⟨rfl, harrays⟩ := slotAfter_none_inj hlength hlone (hfield.symm.trans hfield')
  exact ⟨values, hvalues, hvalues', harrays⟩

/-- An element with one value under both choices shows that they agree about its lone children, and
that each of its children has one value. -/
theorem agree_of_value_eq (h : shape.elementValue path x = .ok value)
    (hother : (shape.withArrays isArray).elementValue path x = .ok value)
    (hkeys : ∀ y ∈ x.children, IsElementKey y.name.localName)
    (hdeeper : ∀ y ∈ x.children, ∀ z ∈ y.children, IsElementKey z.name.localName) :
    AgreeBelow shape.isArray isArray path x ∧ ∀ y ∈ x.children, ∃ inner,
      shape.elementValue (path ++ "." ++ y.name.localName) y = .ok inner ∧
        (shape.withArrays isArray).elementValue (path ++ "." ++ y.name.localName) y =
          .ok inner := by
  constructor
  · intro y hy
    obtain ⟨values, hvalues, -, harrays⟩ :=
      exists_values_of_value_eq h hother hkeys hdeeper hy.mem
    apply harrays
    rw [← hvalues.length_eq, hy.alone, List.length_singleton]
  · intro y hy
    obtain ⟨values, hvalues, hvalues', -⟩ := exists_values_of_value_eq h hother hkeys hdeeper hy
    exact hvalues.exists_of_element hvalues' (List.mem_filter.2 ⟨hy, by simp⟩)

end OneValue

/-- Only the slot of a lone child asks for arrays. -/
theorem slotAfter_eq_of_agree {slots : Fields Slot} {key : String} {values : List Json}
    (hslots : shape.attributeSlots [] x.attributes = .ok slots)
    (hvalues : shape.ValuesAt (path ++ "." ++ key) (named key x.children) values)
    (hkeys : ∀ y ∈ x.children, IsElementKey y.name.localName)
    (hagree : AgreeBelow shape.isArray isArray path x) :
    slotAfter (shape.isArray key (path ++ "." ++ key)) (slots.value? key) values =
      slotAfter (isArray key (path ++ "." ++ key)) (slots.value? key) values := by
  cases values with
  | nil => rfl
  | cons value rest =>
      obtain ⟨z, zs, -, hzs, hlist⟩ := List.forall₂_cons_right_iff.1 hvalues
      have hz : z ∈ named key x.children := hlist ▸ List.mem_cons_self ..
      obtain ⟨hmem, hname⟩ := List.mem_filter.1 hz
      obtain rfl : z.name.localName = key := of_decide_eq_true hname
      rw [value?_attributeSlots_of_not_isMarked hslots (hkeys z hmem).1, slotAfter_none,
        slotAfter_none]
      cases rest with
      | nil =>
          cases hzs
          rw [hagree z ⟨hmem, hlist⟩]
      | cons next more => rfl

/-- Choices that agree about the lone children of an element give it one value, when each of its
children has one. -/
theorem value_eq_of_agree {value other : Json} (h : shape.elementValue path x = .ok value)
    (hother : (shape.withArrays isArray).elementValue path x = .ok other)
    (hkeys : ∀ y ∈ x.children, IsElementKey y.name.localName)
    (hagree : AgreeBelow shape.isArray isArray path x)
    (hchildren : ∀ y ∈ x.children,
      (shape.withArrays isArray).elementValue (path ++ "." ++ y.name.localName) y =
        shape.elementValue (path ++ "." ++ y.name.localName) y) : value = other := by
  obtain ⟨name, attributes, content⟩ := x
  rw [elementValue, bind_eq_ok_iff] at h hother
  obtain ⟨slots, hslots, h⟩ := h
  obtain ⟨slots', hslots', hother⟩ := hother
  rw [attributeSlots_withArrays, hslots, Except.ok.injEq] at hslots'
  subst hslots'
  obtain ⟨result, hresult, h⟩ := bind_eq_ok_iff.1 h
  obtain ⟨result', hresult', hother⟩ := bind_eq_ok_iff.1 hother
  have hnodup : (Fields.names result).Nodup :=
    nodup_childSlots hresult (nodup_attributeSlots hslots List.nodup_nil)
  have hvalue? : ∀ key, result.value? key = result'.value? key := by
    intro key
    obtain ⟨values, hvalues, hfield⟩ := exists_childSlots hresult key
    obtain ⟨values', hvalues', hfield'⟩ := exists_childSlots hresult' key
    have heq : values = values' := by
      apply hvalues.eq_of_elements hvalues'
      intro y hy
      obtain ⟨hmem, hname⟩ := List.mem_filter.1 hy
      rw [← of_decide_eq_true hname]
      exact hchildren y hmem
    rw [hfield, hfield', ← heq]
    exact slotAfter_eq_of_agree (x := ⟨name, attributes, content⟩) hslots hvalues hkeys hagree
  have heq : result = result' :=
    Fields.eq_of_names_eq hnodup (names_childSlots_eq hresult hresult' rfl) hvalue?
  subst heq
  exact Except.ok.inj (h.symm.trans hother)

/-! ## Whole trees -/

/-- The two choices ask for the same of the lone children of a tree. -/
def AgreeIn (first second : String → String → Bool) (root : Element) : Prop :=
  ∀ names x, root.StandsAt names x → AgreeBelow first second (joinedPath names) x

section Trees

variable {root : Element} {value other : Json}

theorem value_eq_of_standsAt (h : shape.elementValue root.name.localName root = .ok value)
    (hother : (shape.withArrays isArray).elementValue root.name.localName root = .ok value)
    (hkeys : root.NamesAreKeys) {names : List String} {x : Element} (hx : root.StandsAt names x) :
    ∃ inner, shape.elementValue (joinedPath names) x = .ok inner ∧
      (shape.withArrays isArray).elementValue (joinedPath names) x = .ok inner := by
  induction hx with
  | root => exact ⟨value, h, hother⟩
  | @child names x y hx hy ih =>
      obtain ⟨inner, hinner, hotherInner⟩ := ih
      have hbelow := agree_of_value_eq hinner hotherInner (fun z hz => hkeys _ z (hx.child hz))
        fun z hz w hw => hkeys _ w ((hx.child hz).child hw)
      rw [joinedPath_append hx.path_ne_nil]
      exact hbelow.2 y hy

/-- Elements deeper in the tree have one value each, so the induction goes down the tree. -/
theorem value_eq_of_agreeIn (h : shape.elementValue root.name.localName root = .ok value)
    (hother : (shape.withArrays isArray).elementValue root.name.localName root = .ok other)
    (hkeys : root.NamesAreKeys) (hagree : AgreeIn shape.isArray isArray root)
    {names : List String} (x : Element) (hx : root.StandsAt names x) :
    (shape.withArrays isArray).elementValue (joinedPath names) x =
      shape.elementValue (joinedPath names) x := by
  obtain ⟨inner, hinner⟩ := exists_elementValue_of_standsAt h hx
  obtain ⟨otherInner, hotherInner⟩ := exists_elementValue_of_standsAt hother hx
  have hchildren : ∀ y ∈ x.children,
      (shape.withArrays isArray).elementValue (joinedPath names ++ "." ++ y.name.localName) y =
        shape.elementValue (joinedPath names ++ "." ++ y.name.localName) y := by
    intro y hy
    have hsmaller := Element.sizeOf_lt_of_mem_children hy
    rw [← joinedPath_append hx.path_ne_nil]
    exact value_eq_of_agreeIn h hother hkeys hagree y (hx.child hy)
  have heq := value_eq_of_agree hinner hotherInner (fun y hy => hkeys _ y (hx.child hy))
    (hagree names x hx) hchildren
  rw [hinner, hotherInner, heq]
termination_by sizeOf x

end Trees

/-- **Two choices of arrays give one tree the same value** exactly when they agree about its lone
children, or when it has no value because of an overlong text. -/
theorem treeValue_withArrays_eq_iff {first second : String → String → Bool} {root : Element}
    (hkeys : root.NamesAreKeys) :
    (shape.withArrays first).treeValue root = (shape.withArrays second).treeValue root ↔
      (∃ text, shape.ReadsIn root text ∧ Scalar.IsOverlong text) ∨ AgreeIn first second root := by
  have hother : shape.withArrays second = (shape.withArrays first).withArrays second := rfl
  rw [hother]
  rcases (shape.withArrays first).treeValue_cases root with
    ⟨herror, hlong⟩ | ⟨⟨value, htree, hroot⟩, hshort⟩
  · rcases ((shape.withArrays first).withArrays second).treeValue_cases root with
      ⟨hother, -⟩ | ⟨-, hno⟩
    · exact ⟨fun _ => Or.inl hlong, fun _ => herror.trans hother.symm⟩
    · obtain ⟨text, hreads, hlong⟩ := hlong
      exact absurd hlong (hno text hreads)
  · rcases ((shape.withArrays first).withArrays second).treeValue_cases root with
      ⟨-, text, hreads, hlong⟩ | ⟨⟨other, hother, hotherRoot⟩, -⟩
    · exact absurd hlong (hshort text hreads)
    · constructor
      · intro heq
        rw [htree, hother] at heq
        cases heq
        refine Or.inr fun names x hx => ?_
        obtain ⟨inner, hinner, hotherInner⟩ := value_eq_of_standsAt hroot hotherRoot hkeys hx
        exact (agree_of_value_eq hinner hotherInner (fun y hy => hkeys _ y (hx.child hy))
          fun y hy z hz => hkeys _ z ((hx.child hy).child hz)).1
      · rintro (⟨text, hreads, hlong⟩ | hagree)
        · exact absurd hlong (hshort text hreads)
        · have heq := value_eq_of_agreeIn hroot hotherRoot hkeys hagree root .root
          have hvalue : other = value := Except.ok.inj (hotherRoot.symm.trans (heq.trans hroot))
          rw [htree, hother, hvalue]

end InstanceShape

end SchemaBridge
