import SchemaBridge.Proofs.Instance.Objects
import SchemaBridge.Proofs.Text.Words

/-!
# Where texts go

The text of an element is gathered from the text before its first child node and from the texts
behind its child nodes, references included, and trimmed (`isTrimmed_ownText`). It is the whole
value of an element with neither attributes nor children; beside these it has a field of its own,
unless it is empty and no list (`PlacesText`). At a list path it is the array of its words, and
anywhere else one piece that is never split (`IsTextValue`).

None of this depends on which fields are arrays (`texts_have_places`): one value of the text serves
for every choice of arrays.
-/

set_option autoImplicit false

namespace SchemaBridge

/-! ## Gathering -/

namespace Xml

/-- The text before the first child node of a content. -/
def leadingText : List Content → List Char
  | .text text :: rest => text.toList ++ leadingText rest
  | _ => []

/-- The texts behind the child nodes of a content, one for each element and each reference. -/
def tails : List Content → List (List Char)
  | [] => []
  | .text _ :: rest => tails rest
  | .element _ :: rest => leadingText rest :: tails rest
  | .reference _ :: rest => leadingText rest :: tails rest

end Xml

namespace InstanceShape

open Xml

variable {shape : InstanceShape} {path : String} {x : Element}

/-- The text of an element is gathered piece by piece: each is in front of all children or behind
one of them. -/
theorem ownText_eq (content : List Content) :
    ownText content = Text.strip (leadingText content ++ (tails content).flatten) := by
  unfold ownText
  apply congrArg Text.strip
  induction content with
  | nil => rfl
  | cons piece rest ih =>
      rw [List.flatMap_cons, ih]
      cases piece with
      | text text => rw [leadingText, tails, List.append_assoc]
      | element child => rfl
      | reference entity => rfl

theorem isTrimmed_ownText (content : List Content) :
    Text.IsTrimmed (leadingText content ++ (tails content).flatten) (ownText content) :=
  Text.strip_eq_iff.1 (ownText_eq content).symm

/-! ## Values of texts -/

/-- A piece of text has a value: it is read as a scalar exactly when texts are read. -/
structure IsReadAs (reads : Bool) (piece : List Char) (value : Json) : Prop where
  scalar : reads = true →
    ∃ scalar, Scalar.ofText (String.ofList piece) = .ok scalar ∧ value = scalar.toJson
  plain : reads = false → value = .str (String.ofList piece)

/-- The value of a text: the values of its words at a list path, and that of the text as one piece
anywhere else. -/
structure IsTextValue (reads : Bool) (isList : Prop) (text : List Char) (value : Json) : Prop where
  list : isList → ∃ words values, Text.ConsistsOf text words ∧
    List.Forall₂ (IsReadAs reads) words values ∧ value = .arr values
  single : ¬ isList → IsReadAs reads text value ∧ ∀ values, value ≠ .arr values

theorem isReadAs_of_scalarValue {reads : Bool} {piece : List Char} {value : Json}
    (h : scalarValue reads (String.ofList piece) = .ok value) : IsReadAs reads piece value := by
  cases reads with
  | true =>
      obtain ⟨scalar, hscalar, hvalue⟩ := map_eq_ok_iff.1 h
      exact ⟨fun _ => ⟨scalar, hscalar, hvalue.symm⟩, nofun⟩
  | false =>
      cases h
      exact ⟨nofun, fun _ => rfl⟩

theorem scalarValue_ne_arr {reads : Bool} {text : String} {value : Json}
    (h : scalarValue reads text = .ok value) (values : List Json) : value ≠ .arr values := by
  rintro rfl
  cases reads with
  | true =>
      obtain ⟨scalar, -, hvalue⟩ := map_eq_ok_iff.1 h
      cases scalar with
      | number number => cases number <;> cases hvalue
      | _ => cases hvalue
  | false => cases h

/-- An empty text is not looked at, which makes no difference to its value. -/
theorem scalarValue_and_nonempty (reads : Bool) (text : List Char) :
    scalarValue (reads && !text.isEmpty) (String.ofList text) =
      scalarValue reads (String.ofList text) := by
  cases text with
  | nil => cases reads <;> rfl
  | cons c rest => rw [List.isEmpty_cons, Bool.not_false, Bool.and_true]

/-- **The value of a text** is the array of its words at a list path, and one piece elsewhere. -/
theorem isTextValue_of_textValue {text : List Char} {value : Json}
    (h : shape.textValue path text = .ok value) :
    IsTextValue shape.readsTexts (path ∈ shape.listPaths) text value := by
  unfold textValue at h
  constructor
  · intro hlist
    rw [if_pos (by simpa using hlist)] at h
    obtain ⟨values, hvalues, hvalue⟩ := map_eq_ok_iff.1 h
    refine ⟨Text.words text, values, Text.words_eq_iff.1 rfl, ?_, hvalue.symm⟩
    apply List.Forall₂.imp _ (mapM_eq_ok_iff.1 hvalues)
    intro word value hword
    exact isReadAs_of_scalarValue hword
  · intro hsingle
    rw [if_neg (by simpa using hsingle), scalarValue_and_nonempty] at h
    exact ⟨isReadAs_of_scalarValue h, scalarValue_ne_arr h⟩

/-! ## Places of texts -/

/-- Where the content of a text stands in the value of its element: it is the whole value of an
element with neither attributes nor children. Beside these it has a field of its own exactly when
the text is not empty or is a list. -/
structure PlacesText (shape : InstanceShape) (path : String) (x : Element) (text : List Char)
    (content value : Json) : Prop where
  whole : x.attributes = [] → x.children = [] → value = content
  beside : x.attributes ≠ [] ∨ x.children ≠ [] → ∃ fields : Fields Json, value = .obj fields ∧
    fields.value? textKey = if text ≠ [] ∨ path ∈ shape.listPaths then some content else none

theorem exists_placesText {value : Json} (h : shape.elementValue path x = .ok value)
    (hkeys : ∀ y ∈ x.children, Xsd.IsElementKey y.name.localName) :
    ∃ content, shape.textValue path (ownText x.content) = .ok content ∧
      shape.PlacesText path x (ownText x.content) content value := by
  by_cases hparts : x.attributes ≠ [] ∨ x.children ≠ []
  · obtain ⟨fields, rfl, hholds⟩ := exists_holdsParts h hparts hkeys
    obtain ⟨content, hcontent, hfield⟩ := hholds.text
    refine ⟨content, hcontent, fun hattributes hchildren => ?_, fun _ => ⟨fields, rfl, hfield⟩⟩
    exact absurd hparts (by simp [hattributes, hchildren])
  · have hnone := not_or.1 hparts
    have hcontent := textValue_of_elementValue h (not_not.1 hnone.1) (not_not.1 hnone.2)
    exact ⟨value, hcontent, fun _ _ => rfl, fun h => absurd h hparts⟩

/-- A shape with other arrays. -/
def withArrays (shape : InstanceShape) (isArray : String → String → Bool) : InstanceShape :=
  { shape with isArray }

/-- The arrays are not asked when a text is read, so one content serves for all of them. -/
theorem exists_content_of_values
    (h : ∀ isArray, ∃ value, (shape.withArrays isArray).elementValue path x = .ok value)
    (hkeys : ∀ y ∈ x.children, Xsd.IsElementKey y.name.localName) :
    ∃ content, shape.textValue path (ownText x.content) = .ok content ∧
      ∀ isArray, ∃ value, (shape.withArrays isArray).elementValue path x = .ok value ∧
        shape.PlacesText path x (ownText x.content) content value := by
  have hplaces : ∀ isArray, ∃ content value,
      shape.textValue path (ownText x.content) = .ok content ∧
        (shape.withArrays isArray).elementValue path x = .ok value ∧
          shape.PlacesText path x (ownText x.content) content value := by
    intro isArray
    obtain ⟨value, hvalue⟩ := h isArray
    obtain ⟨content, hcontent, hplace⟩ := exists_placesText hvalue hkeys
    exact ⟨content, value, hcontent, hvalue, hplace.whole, hplace.beside⟩
  obtain ⟨content, -, hcontent, -⟩ := hplaces shape.isArray
  refine ⟨content, hcontent, fun isArray => ?_⟩
  obtain ⟨other, value, hother, hvalue, hplace⟩ := hplaces isArray
  rw [hcontent, Except.ok.injEq] at hother
  exact ⟨value, hvalue, hother ▸ hplace⟩

/-- **Every text of a tree has its place**, whatever the arrays. -/
theorem texts_have_places (shape : InstanceShape) {root : Element} (hkeys : root.NamesAreKeys) :
    ((∀ isArray, (shape.withArrays isArray).treeValue root = .error .integerTooLong) ∧
        (shape.readsAttributes = true ∨ shape.readsTexts = true) ∧
        ∃ text, shape.ReadsIn root text ∧ Scalar.IsOverlong text) ∨
      (∀ isArray, ∃ value,
        (shape.withArrays isArray).treeValue root = .ok [(root.name.localName, value)] ∧
          (shape.withArrays isArray).elementValue root.name.localName root = .ok value) ∧
        ∀ names x, root.StandsAt names x → ∃ text content,
          Text.IsTrimmed (leadingText x.content ++ (tails x.content).flatten) text ∧
          IsTextValue shape.readsTexts (joinedPath names ∈ shape.listPaths) text content ∧
          ∀ isArray, ∃ value,
            (shape.withArrays isArray).elementValue (joinedPath names) x = .ok value ∧
              shape.PlacesText (joinedPath names) x text content value := by
  by_cases hreadable : ∀ text, shape.ReadsIn root text → ¬ Scalar.IsOverlong text
  · have hvalue : ∀ isArray, ∃ value,
        (shape.withArrays isArray).treeValue root = .ok [(root.name.localName, value)] ∧
          (shape.withArrays isArray).elementValue root.name.localName root = .ok value := by
      intro isArray
      rcases (shape.withArrays isArray).treeValue_cases root with ⟨-, text, hreads, hlong⟩ | ⟨h, -⟩
      · exact absurd hlong (hreadable text hreads)
      · exact h
    refine Or.inr ⟨hvalue, fun names x hx => ?_⟩
    have hinner : ∀ isArray, ∃ value,
        (shape.withArrays isArray).elementValue (joinedPath names) x = .ok value := by
      intro isArray
      obtain ⟨value, -, hroot⟩ := hvalue isArray
      exact exists_elementValue_of_standsAt hroot hx
    obtain ⟨content, hcontent, hplaces⟩ :=
      exists_content_of_values hinner fun y hy => hkeys _ y (hx.child hy)
    exact ⟨ownText x.content, content, isTrimmed_ownText x.content,
      isTextValue_of_textValue hcontent, hplaces⟩
  · obtain ⟨text, htext⟩ := not_forall.1 hreadable
    obtain ⟨hreads, hlong⟩ := Classical.not_imp.1 htext
    have herror : ∀ isArray, (shape.withArrays isArray).treeValue root = .error .integerTooLong := by
      intro isArray
      exact treeValue_eq_error_iff.2 ⟨rfl, text, hreads, not_not.1 hlong⟩
    exact Or.inl ⟨herror, hreads.reads, text, hreads, not_not.1 hlong⟩

/-- The text of an order goes beside its children and is one piece, and the text of its first sizes
is the whole value and a list. -/
theorem texts_have_places_orderRoot :
    orderRoot.NamesAreKeys ∧
      ∀ names x, orderRoot.StandsAt names x → ∃ text content,
        Text.IsTrimmed (leadingText x.content ++ (tails x.content).flatten) text ∧
        IsTextValue true (joinedPath names ∈ ["order.size"]) text content ∧
        ∀ isArray, ∃ value,
          (orderShape.withArrays isArray).elementValue (joinedPath names) x = .ok value ∧
            orderShape.PlacesText (joinedPath names) x text content value := by
  refine ⟨orderRoot_namesAreKeys, ?_⟩
  rcases texts_have_places orderShape orderRoot_namesAreKeys with ⟨herror, -⟩ | ⟨-, h⟩
  · have hvalue := treeValue_orderRoot.symm.trans (herror orderShape.isArray)
    cases hvalue
  · exact h

end InstanceShape

end SchemaBridge
