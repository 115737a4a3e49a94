import SchemaBridge.Proofs.Instance.Precedence

/-!
# Numbers of instance documents

Which numbers stand in the value of a document, and when the value is one that can be written down
as JSON: when reading succeeds and every floating-point number is finite
(`ReadingOptions.Materializes`). The floating-point numbers of a value are those that its own texts
are read as, and those of the values of its children (`hasDouble_elementValue_iff`), so those of a
whole document come from the texts that are read as scalars and kept (`hasDouble_root_iff`). The
value of an attribute is not kept when a later attribute has its local name.

Neither of the two limits is guarded. A whole number with too many digits makes reading fail, and a
numeral with a point or an exponent beyond the largest double leaves an infinity in the value.
Documents without such texts materialize, and no others
(`reading_fails_iff_and_materializes_iff`).
-/

set_option autoImplicit false

namespace SchemaBridge

open Xsd (attributeMark IsElementKey)

/-! ## Floating-point numbers in values -/

/-- A floating-point number stands somewhere in a value. -/
inductive Json.HasDouble (d : Binary64) : Json → Prop where
  | here : HasDouble d (.double d)
  | item {items : List Json} {item : Json} (hitem : item ∈ items) (h : HasDouble d item) :
      HasDouble d (.arr items)
  | field {fields : List (String × Json)} {key : String} {value : Json}
      (hfield : (key, value) ∈ fields) (h : HasDouble d value) : HasDouble d (.obj fields)

namespace Json

variable {d : Binary64}

theorem hasDouble_arr_iff {items : List Json} :
    HasDouble d (.arr items) ↔ ∃ item ∈ items, HasDouble d item := by
  constructor
  · rintro (_ | ⟨hitem, h⟩)
    exact ⟨_, hitem, h⟩
  · rintro ⟨item, hitem, h⟩
    exact .item hitem h

/-- In an object without repeated keys, the numbers are those of the values that are found. -/
theorem hasDouble_obj_iff {fields : Fields Json} (hnodup : (Fields.names fields).Nodup) :
    HasDouble d (.obj fields) ↔
      ∃ key value, fields.value? key = some value ∧ HasDouble d value := by
  constructor
  · rintro (_ | _ | ⟨hfield, h⟩)
    exact ⟨_, _, (Fields.value?_eq_some_iff hnodup).2 hfield, h⟩
  · rintro ⟨key, value, hvalue, h⟩
    exact .field (Fields.mem_of_value? hvalue) h

theorem hasDouble_toJson_iff {scalar : Scalar} :
    HasDouble d scalar.toJson ↔ scalar = .number (.real d) := by
  constructor
  · intro h
    cases scalar with
    | number number =>
        cases number with
        | real other =>
            cases h
            rfl
        | whole value => cases h
    | truth value => cases h
    | text text => cases h
  · rintro rfl
    exact .here

end Json

namespace InstanceShape

open Xml Json

variable {shape : InstanceShape} {path : String} {x : Element} {d : Binary64}

/-! ## Texts -/

theorem hasDouble_scalarValue_iff {reads : Bool} {text : String} {value : Json}
    (h : scalarValue reads text = .ok value) :
    HasDouble d value ↔ reads = true ∧ Scalar.ofText text = .ok (.number (.real d)) := by
  cases reads with
  | true =>
      obtain ⟨scalar, hscalar, rfl⟩ := map_eq_ok_iff.1 h
      rw [hasDouble_toJson_iff, hscalar, Except.ok.injEq]
      simp
  | false =>
      cases h
      exact ⟨nofun, fun h => Bool.noConfusion h.1⟩

theorem hasDouble_attributeValue_iff {text : String} {value : Json}
    (h : shape.attributeValue text = .ok value) :
    HasDouble d value ↔ shape.readsAttributes = true ∧
      Scalar.ofText (String.ofList (Text.strip text.toList)) = .ok (.number (.real d)) := by
  unfold attributeValue at h
  split at h
  · next hreads =>
      rw [hasDouble_scalarValue_iff h, hreads]
  · next hplain =>
      cases h
      exact ⟨nofun, fun h => absurd h.1 hplain⟩

theorem hasDouble_textValue_iff {text : List Char} {value : Json}
    (h : shape.textValue path text = .ok value) :
    HasDouble d value ↔ shape.readsTexts = true ∧
      ∃ t ∈ shape.textPieces path text, Scalar.ofText t = .ok (.number (.real d)) := by
  unfold textValue textPieces at *
  split at h
  · next hlist =>
      obtain ⟨values, hvalues, rfl⟩ := map_eq_ok_iff.1 h
      rw [if_pos hlist, hasDouble_arr_iff]
      constructor
      · rintro ⟨value, hvalue, hdouble⟩
        obtain ⟨word, hword, hread⟩ := (mem_values_iff (mapM_eq_ok_iff.1 hvalues)).1 hvalue
        obtain ⟨hreads, hreal⟩ := (hasDouble_scalarValue_iff hread).1 hdouble
        exact ⟨hreads, _, List.mem_map_of_mem hword, hreal⟩
      · rintro ⟨hreads, t, ht, hreal⟩
        obtain ⟨word, hword, rfl⟩ := List.mem_map.1 ht
        have hread : scalarValue shape.readsTexts (String.ofList word) = .ok (.double d) := by
          rw [hreads, scalarValue, if_pos rfl, hreal]
          rfl
        exact ⟨_, (mem_values_iff (mapM_eq_ok_iff.1 hvalues)).2 ⟨word, hword, hread⟩, .here⟩
  · next hsingle =>
      rw [if_neg hsingle]
      rw [scalarValue_and_nonempty] at h
      simp only [List.mem_singleton, exists_eq_left]
      exact hasDouble_scalarValue_iff h

/-! ## One element -/

/-- A text of an element is read as a scalar and has its value in that of the element. -/
def Keeps (shape : InstanceShape) (path : String) (x : Element) (text : String) : Prop :=
  (shape.readsAttributes = true ∧ ∃ name value, x.attribute? name = some value ∧
      text = String.ofList (Text.strip value.toList)) ∨
    shape.readsTexts = true ∧ text ∈ shape.textPieces path (ownText x.content)

/-- What is kept is read: the attribute that a name keeps is one of the attributes. -/
theorem Keeps.mem_scalarTexts {text : String} (h : shape.Keeps path x text) :
    text ∈ shape.scalarTexts path x := by
  rcases h with ⟨hreads, name, value, hsome, rfl⟩ | ⟨hreads, hpiece⟩
  · obtain ⟨a, ha, rfl⟩ := exists_mem_of_lastNamed? hsome
    rw [scalarTexts, if_pos hreads]
    exact List.mem_append_left _ (List.mem_map.2 ⟨a, ha, rfl⟩)
  · rw [scalarTexts, if_pos hreads]
    exact List.mem_append_right _ hpiece

theorem hasDouble_slotAfter_iff {isArray : Bool} {values : List Json} {value : Json}
    (h : (slotAfter isArray none values).map Slot.toJson = some value) :
    HasDouble d value ↔ ∃ v ∈ values, HasDouble d v := by
  rw [slotAfter_none] at h
  match values with
  | [] => cases h
  | [single] =>
      have hsingle : (∃ v ∈ [single], HasDouble d v) ↔ HasDouble d single := by simp
      cases isArray <;> cases h
      · exact hsingle.symm
      · exact hasDouble_arr_iff
  | first :: second :: rest =>
      cases h
      exact hasDouble_arr_iff

section HoldsParts

variable {fields : Fields Json}

theorem HoldsParts.hasDouble_at_attribute (h : shape.HoldsParts path x fields) (name : String) :
    (∃ value, fields.value? (attributeMark ++ name) = some value ∧ HasDouble d value) ↔
      ∃ text, x.attribute? name = some text ∧ shape.readsAttributes = true ∧
        Scalar.ofText (String.ofList (Text.strip text.toList)) = .ok (.number (.real d)) := by
  rcases h.attributes name with ⟨hnone, hfield⟩ | ⟨text, value, hsome, hvalue, hfield⟩
  · simp [hnone, hfield]
  · simp [hsome, hfield, hasDouble_attributeValue_iff hvalue]

theorem HoldsParts.hasDouble_at_text (h : shape.HoldsParts path x fields) :
    (∃ value, fields.value? textKey = some value ∧ HasDouble d value) ↔
      shape.readsTexts = true ∧ ∃ t ∈ shape.textPieces path (ownText x.content),
        Scalar.ofText t = .ok (.number (.real d)) := by
  obtain ⟨content, hcontent, hfield⟩ := h.text
  rw [hfield]
  split
  · simp [hasDouble_textValue_iff hcontent]
  · next hleft =>
      -- A text that is left out is empty, and no number.
      obtain ⟨hempty, hlist⟩ := not_or.1 hleft
      rw [not_not.1 hempty, textPieces, if_neg (by simpa using hlist)]
      constructor
      · rintro ⟨value, hvalue, -⟩
        cases hvalue
      · rintro ⟨-, t, ht, hreal⟩
        rw [List.mem_singleton.1 ht] at hreal
        cases hreal

theorem HoldsParts.hasDouble_at_children (h : shape.HoldsParts path x fields) {name : String}
    (hname : IsElementKey name) :
    (∃ value, fields.value? name = some value ∧ HasDouble d value) ↔
      ∃ y ∈ named name x.children, ∃ inner,
        shape.elementValue (path ++ "." ++ name) y = .ok inner ∧ HasDouble d inner := by
  obtain ⟨values, hvalues, hfield⟩ := h.children name hname
  rw [hfield]
  constructor
  · rintro ⟨value, hvalue, hdouble⟩
    obtain ⟨inner, hinner, hdouble⟩ := (hasDouble_slotAfter_iff hvalue).1 hdouble
    obtain ⟨y, hy, hread⟩ := (mem_values_iff hvalues).1 hinner
    exact ⟨y, hy, inner, hread, hdouble⟩
  · rintro ⟨y, hy, inner, hread, hdouble⟩
    have hinner : inner ∈ values := (mem_values_iff hvalues).2 ⟨y, hy, hread⟩
    have hsome : (slotAfter (shape.isArray name (path ++ "." ++ name)) none values).isSome :=
      isSome_slotAfter.2 (Or.inr (List.ne_nil_of_mem hinner))
    obtain ⟨slot, hslot⟩ := Option.isSome_iff_exists.1 hsome
    refine ⟨slot.toJson, by rw [hslot]; rfl, ?_⟩
    apply (hasDouble_slotAfter_iff (by rw [hslot]; rfl)).2
    exact ⟨inner, hinner, hdouble⟩

/-- The numbers of an object come from the parts of its element: each part has a key of its own. -/
theorem HoldsParts.hasDouble_iff (h : shape.HoldsParts path x fields)
    (hkeys : ∀ y ∈ x.children, IsElementKey y.name.localName) :
    HasDouble d (.obj fields) ↔
      (∃ text, shape.Keeps path x text ∧ Scalar.ofText text = .ok (.number (.real d))) ∨
        ∃ y ∈ x.children, ∃ inner,
          shape.elementValue (path ++ "." ++ y.name.localName) y = .ok inner ∧
            HasDouble d inner := by
  rw [hasDouble_obj_iff h.nodup]
  constructor
  · rintro ⟨key, hkey⟩
    rcases key_cases key with ⟨name, rfl⟩ | rfl | hchild
    · obtain ⟨text, hsome, hreads, hreal⟩ := (h.hasDouble_at_attribute name).1 hkey
      exact Or.inl ⟨_, Or.inl ⟨hreads, name, text, hsome, rfl⟩, hreal⟩
    · obtain ⟨hreads, t, ht, hreal⟩ := h.hasDouble_at_text.1 hkey
      exact Or.inl ⟨t, Or.inr ⟨hreads, ht⟩, hreal⟩
    · obtain ⟨y, hy, inner, hread, hdouble⟩ := (h.hasDouble_at_children hchild).1 hkey
      obtain ⟨hmem, hname⟩ := List.mem_filter.1 hy
      obtain rfl : y.name.localName = key := of_decide_eq_true hname
      exact Or.inr ⟨y, hmem, inner, hread, hdouble⟩
  · rintro (⟨text, ⟨hreads, name, value, hsome, rfl⟩ | ⟨hreads, hpiece⟩, hreal⟩ |
      ⟨y, hy, inner, hread, hdouble⟩)
    · exact ⟨_, (h.hasDouble_at_attribute name).2 ⟨value, hsome, hreads, hreal⟩⟩
    · exact ⟨_, h.hasDouble_at_text.2 ⟨hreads, text, hpiece, hreal⟩⟩
    · have hnamed : y ∈ named y.name.localName x.children := List.mem_filter.2 ⟨hy, by simp⟩
      exact ⟨_, (h.hasDouble_at_children (hkeys y hy)).2 ⟨y, hnamed, inner, hread, hdouble⟩⟩

end HoldsParts

/-- **The numbers of an element** are those that its own texts are read as and those of its
children. -/
theorem hasDouble_elementValue_iff {value : Json} (h : shape.elementValue path x = .ok value)
    (hkeys : ∀ y ∈ x.children, IsElementKey y.name.localName) :
    HasDouble d value ↔
      (∃ text, shape.Keeps path x text ∧ Scalar.ofText text = .ok (.number (.real d))) ∨
        ∃ y ∈ x.children, ∃ inner,
          shape.elementValue (path ++ "." ++ y.name.localName) y = .ok inner ∧
            HasDouble d inner := by
  by_cases hparts : x.attributes ≠ [] ∨ x.children ≠ []
  · obtain ⟨fields, rfl, hholds⟩ := exists_holdsParts h hparts hkeys
    exact hholds.hasDouble_iff hkeys
  · obtain ⟨hattributes, hchildren⟩ := not_or.1 hparts
    have hcontent := textValue_of_elementValue h (not_not.1 hattributes) (not_not.1 hchildren)
    rw [hasDouble_textValue_iff hcontent]
    constructor
    · rintro ⟨hreads, t, ht, hreal⟩
      exact Or.inl ⟨t, Or.inr ⟨hreads, ht⟩, hreal⟩
    · rintro (⟨text, ⟨-, name, value, hsome, -⟩ | ⟨hreads, hpiece⟩, hreal⟩ | ⟨y, hy, -⟩)
      · rw [Element.attribute?, not_not.1 hattributes] at hsome
        cases hsome
      · exact ⟨hreads, text, hpiece, hreal⟩
      · rw [not_not.1 hchildren] at hy
        cases hy

/-! ## Whole trees -/

/-- A text is read as a scalar somewhere in a tree and has its value in that of the tree. -/
def KeepsIn (shape : InstanceShape) (root : Element) (text : String) : Prop :=
  ∃ names x, root.StandsAt names x ∧ shape.Keeps (joinedPath names) x text

theorem KeepsIn.readsIn {root : Element} {text : String} (h : shape.KeepsIn root text) :
    shape.ReadsIn root text := by
  obtain ⟨names, x, hx, hkeeps⟩ := h
  exact ⟨names, x, hx, hkeeps.mem_scalarTexts⟩

section Trees

variable {root : Element} {value : Json}

/-- What stands in the value of an element stands in that of the tree. -/
theorem hasDouble_root_of_standsAt (hroot : shape.elementValue root.name.localName root = .ok value)
    (hkeys : root.NamesAreKeys) {names : List String} {x : Element} (hx : root.StandsAt names x)
    {inner : Json} (hinner : shape.elementValue (joinedPath names) x = .ok inner)
    (hdouble : HasDouble d inner) : HasDouble d value := by
  induction hx generalizing inner with
  | root =>
      have heq : inner = value := Except.ok.inj (hinner.symm.trans hroot)
      exact heq ▸ hdouble
  | @child names x y hx hy ih =>
      obtain ⟨outer, houter⟩ := exists_elementValue_of_standsAt hroot hx
      rw [joinedPath_append hx.path_ne_nil] at hinner
      apply ih houter
      apply (hasDouble_elementValue_iff houter fun z hz => hkeys _ z (hx.child hz)).2
      exact Or.inr ⟨y, hy, inner, hinner, hdouble⟩

/-- A number that is not read from the texts of an element comes from a child, so the induction goes
down the tree. -/
theorem exists_keepsIn_of_hasDouble (hkeys : root.NamesAreKeys) {names : List String} (x : Element)
    (hx : root.StandsAt names x) {inner : Json}
    (hinner : shape.elementValue (joinedPath names) x = .ok inner) (hdouble : HasDouble d inner) :
    ∃ text, shape.KeepsIn root text ∧ Scalar.ofText text = .ok (.number (.real d)) := by
  have hparts := hasDouble_elementValue_iff (d := d) hinner fun y hy => hkeys _ y (hx.child hy)
  rcases hparts.1 hdouble with ⟨text, hkeeps, hreal⟩ | ⟨y, hy, deeper, hdeeper, hdouble⟩
  · exact ⟨text, ⟨names, x, hx, hkeeps⟩, hreal⟩
  · have hsmaller := Element.sizeOf_lt_of_mem_children hy
    rw [← joinedPath_append hx.path_ne_nil] at hdeeper
    exact exists_keepsIn_of_hasDouble hkeys y (hx.child hy) hdeeper hdouble
termination_by sizeOf x

/-- **The numbers of a tree** are those that its texts are read as, wherever these stand. -/
theorem hasDouble_root_iff (hroot : shape.elementValue root.name.localName root = .ok value)
    (hkeys : root.NamesAreKeys) :
    HasDouble d value ↔
      ∃ text, shape.KeepsIn root text ∧ Scalar.ofText text = .ok (.number (.real d)) := by
  constructor
  · intro hdouble
    exact exists_keepsIn_of_hasDouble hkeys root .root hroot hdouble
  · rintro ⟨text, ⟨names, x, hx, hkeeps⟩, hreal⟩
    obtain ⟨inner, hinner⟩ := exists_elementValue_of_standsAt hroot hx
    have hparts := hasDouble_elementValue_iff (d := d) hinner fun y hy => hkeys _ y (hx.child hy)
    exact hasDouble_root_of_standsAt hroot hkeys hx hinner (hparts.2 (Or.inl ⟨text, hkeeps, hreal⟩))

/-- All numbers of a tree are finite when none of its texts is read as an infinity. -/
theorem forall_isFinite_iff (hroot : shape.elementValue root.name.localName root = .ok value)
    (hkeys : root.NamesAreKeys) :
    (∀ d, HasDouble d value → d.isFinite = true) ↔
      ∀ text, shape.KeepsIn root text → ¬ Scalar.IsInfinite text := by
  constructor
  · intro hfinite text hkeeps hinfinite
    obtain ⟨d, hreal, hd⟩ := Scalar.exists_infinite_iff.2 hinfinite
    rw [hfinite d ((hasDouble_root_iff hroot hkeys).2 ⟨text, hkeeps, hreal⟩)] at hd
    cases hd
  · intro hkept d hdouble
    obtain ⟨text, hkeeps, hreal⟩ := (hasDouble_root_iff hroot hkeys).1 hdouble
    by_contra hd
    exact hkept text hkeeps
      (Scalar.exists_infinite_iff.1 ⟨d, hreal, Bool.eq_false_of_not_eq_true hd⟩)

end Trees

end InstanceShape

/-! ## Documents -/

namespace ReadingOptions

open Json

variable {options : ReadingOptions}

/-- The reading options are such as can be given: array names are not null, and the options of a
conversion are valid. -/
structure IsValid (options : ReadingOptions) : Prop where
  names : options.arrayElementNames?.isSome
  converts : options.ConvertsValidly

/-- A text of a tree is read as a scalar and has its value in that of the tree. -/
def KeepsIn (options : ReadingOptions) (root : Xml.Element) (text : String) : Prop :=
  (options.shapeWith []).KeepsIn root text

/-- Reading succeeds, and every number in the value is a whole one or finite. -/
def Materializes (options : ReadingOptions) (document : Except Failure Xml.Element) : Prop :=
  ∃ fields, readInstance options document = .ok fields ∧
    ∀ d, HasDouble d (.obj fields) → d.isFinite = true

theorem IsValid.exists_arrayPaths (h : options.IsValid) :
    ∃ paths, options.arrayPaths = .ok paths := by
  obtain ⟨resolved, hresolved⟩ := h.converts
  obtain ⟨names, hnames⟩ := Option.isSome_iff_exists.1 h.names
  unfold arrayPaths
  split
  · exact ⟨_, rfl⟩
  · next schema _ _ =>
      unfold schemaArrayPaths
      split
      · next fields hfields =>
          rw [hfields] at hresolved
          unfold deriveArrayPaths
          split
          · exact ⟨[], rfl⟩
          · exact ⟨_, map_eq_ok_iff.2 ⟨resolved, hresolved, rfl⟩⟩
      · rw [hnames]
        exact ⟨_, rfl⟩
  · exact ⟨[], rfl⟩

theorem IsValid.exists_shape (h : options.IsValid) :
    ∃ isArray, options.shape = .ok ((options.shapeWith []).withArrays isArray) := by
  obtain ⟨paths, hpaths⟩ := h.exists_arrayPaths
  obtain ⟨names, hnames⟩ := exists_arrayNames h.converts paths
  exact ⟨_, shape_eq hpaths hnames⟩

/-- A tree with a single field has the numbers of its root element. -/
theorem hasDouble_tree_iff {name : String} {value : Json} {d : Binary64} :
    HasDouble d (.obj [(name, value)]) ↔ HasDouble d value := by
  constructor
  · rintro (_ | _ | ⟨hfield, h⟩)
    cases List.mem_singleton.1 hfield
    exact h
  · intro h
    exact .field (List.mem_singleton.2 rfl) h

/-- Reading fails for a document that is not well formed and at an overlong text. -/
theorem readInstance_eq_error_iff (hvalid : options.IsValid) (document : Except Failure Xml.Element)
    (failure : Failure) :
    readInstance options document = .error failure ↔
      document = .error failure ∨ ∃ root text, document = .ok root ∧
        failure = .integerTooLong ∧ options.ReadsIn root text ∧ Scalar.IsOverlong text := by
  obtain ⟨isArray, hshape⟩ := hvalid.exists_shape
  have hread := readInstance_eq hshape document
  cases document with
  | error other =>
      have herror : readInstance options (.error other) = .error other := hread
      rw [herror]
      constructor
      · rintro ⟨⟩
        exact Or.inl rfl
      · rintro (⟨⟨⟩⟩ | ⟨root, text, hroot, -⟩)
        · rfl
        · cases hroot
  | ok root =>
      have htree : readInstance options (.ok root) =
          ((options.shapeWith []).withArrays isArray).treeValue root := hread
      rw [htree, InstanceShape.treeValue_eq_error_iff]
      constructor
      · rintro ⟨rfl, text, hreads, hlong⟩
        exact Or.inr ⟨root, text, rfl, rfl, hreads, hlong⟩
      · rintro (h | ⟨_, text, ⟨⟩, rfl, hreads, hlong⟩)
        · cases h
        · exact ⟨rfl, text, hreads, hlong⟩

/-- The value of a well-formed document can be written down unless a text is overlong, or is read as
an infinity and kept. -/
theorem materializes_ok_iff (hvalid : options.IsValid) {root : Xml.Element}
    (hkeys : root.NamesAreKeys) :
    options.Materializes (.ok root) ↔
      (∀ text, options.ReadsIn root text → ¬ Scalar.IsOverlong text) ∧
        ∀ text, options.KeepsIn root text → ¬ Scalar.IsInfinite text := by
  obtain ⟨isArray, hshape⟩ := hvalid.exists_shape
  have hread : readInstance options (.ok root) =
      ((options.shapeWith []).withArrays isArray).treeValue root := readInstance_eq hshape _
  rw [Materializes, hread]
  rcases ((options.shapeWith []).withArrays isArray).treeValue_cases root with
    ⟨herror, text, hreads, hlong⟩ | ⟨⟨value, htree, hroot⟩, hshort⟩
  · constructor
    · rintro ⟨fields, hfields, -⟩
      rw [herror] at hfields
      cases hfields
    · rintro ⟨hshort, -⟩
      exact absurd hlong (hshort text hreads)
  · have hfinite := InstanceShape.forall_isFinite_iff hroot hkeys
    rw [htree]
    constructor
    · rintro ⟨_, ⟨⟩, hdoubles⟩
      refine ⟨hshort, hfinite.1 fun d hd => ?_⟩
      exact hdoubles d (hasDouble_tree_iff.2 hd)
    · rintro ⟨-, hkept⟩
      refine ⟨_, rfl, fun d hd => ?_⟩
      exact hfinite.2 hkept d (hasDouble_tree_iff.1 hd)

/-- **Which documents are read, and which of them as JSON.** -/
theorem reading_fails_iff_and_materializes_iff (hvalid : options.IsValid)
    (document : Except Failure Xml.Element)
    (hkeys : ∀ root, document = .ok root → root.NamesAreKeys) :
    (∀ failure, readInstance options document = .error failure ↔
        document = .error failure ∨ ∃ root text, document = .ok root ∧
          failure = .integerTooLong ∧ options.ReadsIn root text ∧ Scalar.IsOverlong text) ∧
      (options.Materializes document ↔ ∃ root, document = .ok root ∧
        (∀ text, options.ReadsIn root text → ¬ Scalar.IsOverlong text) ∧
          ∀ text, options.KeepsIn root text → ¬ Scalar.IsInfinite text) := by
  refine ⟨readInstance_eq_error_iff hvalid document, ?_⟩
  cases document with
  | error failure =>
      have herror := (readInstance_eq_error_iff hvalid (.error failure) failure).2 (Or.inl rfl)
      constructor
      · rintro ⟨fields, hfields, -⟩
        rw [herror] at hfields
        cases hfields
      · rintro ⟨root, hroot, -⟩
        cases hroot
  | ok root =>
      rw [materializes_ok_iff hvalid (hkeys root rfl)]
      constructor
      · intro h
        exact ⟨root, rfl, h⟩
      · rintro ⟨_, ⟨⟩, h⟩
        exact h

/-! ## A line of a bill -/

/-- A whole number. -/
def countChild : Xml.Element := { name := { localPart := "count" }, content := [.text "7"] }

/-- A decimal. -/
def priceChild : Xml.Element := { name := { localPart := "price" }, content := [.text "2.5"] }

/-- Numbers in an attribute and in two children. -/
def lineRoot : Xml.Element :=
  { name := { localPart := "line" }
    attributes := [({ localPart := "number" }, "12")]
    content := [.element countChild, .element priceChild] }

theorem lineRoot_namesAreKeys : lineRoot.NamesAreKeys :=
  Xml.Element.namesAreKeys_of_flat (by decide) (by decide)

/-- Everything that is read in the line has a value, and a floating-point number among the values is
finite. -/
theorem exists_ofText_of_readsIn_lineRoot {text : String}
    (h : ({} : ReadingOptions).ReadsIn lineRoot text) :
    ∃ scalar, Scalar.ofText text = .ok scalar ∧
      ∀ d, scalar = .number (.real d) → d.isFinite = true := by
  obtain ⟨names, x, hx, htext⟩ := h
  have hmem : x ∈ [lineRoot, countChild, priceChild] := hx.mem_of_flat (by decide)
  simp only [List.mem_cons, List.not_mem_nil, or_false] at hmem
  rcases hmem with rfl | rfl | rfl
  · have hown : text ∈ ["12", ""] := htext
    simp only [List.mem_cons, List.not_mem_nil, or_false] at hown
    rcases hown with rfl | rfl
    · exact ⟨.number (.whole 12), rfl, nofun⟩
    · exact ⟨.text "", rfl, nofun⟩
  · obtain rfl : text = "7" := List.mem_singleton.1 htext
    exact ⟨.number (.whole 7), rfl, nofun⟩
  · obtain rfl : text = "2.5" := List.mem_singleton.1 htext
    refine ⟨.number (.real (.ofDecimal false 25 (-1))), rfl, fun d hd => ?_⟩
    cases hd
    decide +kernel

/-- A line with whole numbers and a decimal materializes. -/
theorem reading_fails_iff_and_materializes_iff_lineRoot :
    ({} : ReadingOptions).IsValid ∧ lineRoot.NamesAreKeys ∧
      readInstance {} (.ok lineRoot) = .ok [("line", .obj [("@_number", .int 12),
        ("count", .int 7), ("price", .double (.ofDecimal false 25 (-1)))])] ∧
      ({} : ReadingOptions).Materializes (.ok lineRoot) := by
  have hvalid : ({} : ReadingOptions).IsValid := ⟨rfl, ⟨_, rfl⟩⟩
  have hkeys : ∀ root, (Except.ok lineRoot : Except Failure Xml.Element) = .ok root →
      root.NamesAreKeys := by
    rintro _ ⟨⟩
    exact lineRoot_namesAreKeys
  refine ⟨hvalid, lineRoot_namesAreKeys, rfl, ?_⟩
  apply (reading_fails_iff_and_materializes_iff hvalid _ hkeys).2.2
  refine ⟨lineRoot, rfl, fun text hreads => ?_, fun text hkeeps => ?_⟩
  · obtain ⟨scalar, hscalar, -⟩ := exists_ofText_of_readsIn_lineRoot hreads
    exact Scalar.not_isOverlong_of_ofText hscalar
  · obtain ⟨scalar, hscalar, hfinite⟩ := exists_ofText_of_readsIn_lineRoot hkeeps.readsIn
    exact Scalar.not_isInfinite_of_ofText hscalar hfinite

/-! ## Numbers beyond the limits -/

/-- An element whose text is a numeral that is too large for a double. -/
def hugeRoot : Xml.Element := { name := { localPart := "r" }, content := [.text "1e999"] }

/-- An element whose text is a whole number with one digit more than are read. -/
def longRoot : Xml.Element :=
  { name := { localPart := "r" }
    content := [.text (String.ofList (List.replicate (longestWhole + 1) '1'))] }

theorem isInfinite_huge : Scalar.IsInfinite "1e999" := by
  refine ⟨⟨false, [1], none, some 999⟩, rfl, rfl, ?_⟩
  have hmagnitude : Numeral.magnitude ⟨false, [1], none, some 999⟩ = 10 ^ (999 : ℤ) := by
    simp [Numeral.magnitude, Numeral.digitsValue]
  calc (Binary64.overflowThreshold : ℚ)
      ≤ ((10 ^ 400 : ℕ) : ℚ) := Nat.cast_le.2 Binary64.overflowThreshold_le_ten_pow
    _ = 10 ^ (400 : ℤ) := by rw [Nat.cast_pow, Nat.cast_ofNat, ← zpow_natCast, Nat.cast_ofNat]
    _ ≤ 10 ^ (999 : ℤ) := zpow_le_zpow_right₀ (by norm_num) (by norm_num)
    _ = _ := hmagnitude.symm

theorem isOverlong_replicate {n : Nat} (h : longestWhole < n) :
    Scalar.IsOverlong (String.ofList (List.replicate n '1')) := by
  have hkept : Scalar.withoutFinalNewline (List.replicate n '1') = List.replicate n '1' := by
    apply if_neg
    intro hlast
    have hmem := List.mem_of_getLast? hlast
    exact absurd (List.eq_of_mem_replicate hmem) (by decide)
  refine ⟨List.replicate n '1', ⟨?_, ?_, ?_⟩, ?_⟩
  · rw [String.toList_ofList, hkept]
    exact Or.inl rfl
  · intro hnil
    rw [List.replicate_eq_nil_iff] at hnil
    omega
  · intro c hc
    rw [List.eq_of_mem_replicate hc]
    rfl
  · rw [List.length_replicate]
    exact h

theorem readInstance_hugeRoot : readInstance {} (.ok hugeRoot) =
    ((Scalar.ofText "1e999").map Scalar.toJson).map fun value => [("r", value)] := rfl

theorem ownText_longRoot :
    InstanceShape.ownText longRoot.content = List.replicate (longestWhole + 1) '1' := by
  have hplain : Text.StartsPlain (List.replicate (longestWhole + 1) '1') := by
    intro c hc
    rw [List.eq_of_mem_replicate (List.mem_of_head? hc)]
    rfl
  have htext : InstanceShape.ownText longRoot.content =
      Text.strip ((String.ofList (List.replicate (longestWhole + 1) '1')).toList ++ []) := rfl
  rw [htext, String.toList_ofList, List.append_nil]
  apply Text.strip_eq_iff.2
  refine ⟨⟨[], [], nofun, nofun, (List.append_nil _).symm⟩, hplain, ?_⟩
  rw [List.reverse_replicate]
  exact hplain

theorem readsIn_longRoot : ({} : ReadingOptions).ReadsIn longRoot
    (String.ofList (List.replicate (longestWhole + 1) '1')) := by
  refine ⟨["r"], longRoot, .root, ?_⟩
  rw [← ownText_longRoot]
  exact List.mem_singleton.2 rfl

/-- **A well-formed document that does not materialize**: its number is read as an infinity. Another
one is not read at all, for it has one digit too many. -/
theorem hugeRoot_not_materializes :
    ({} : ReadingOptions).IsValid ∧ hugeRoot.NamesAreKeys ∧
      (∃ d, readInstance {} (.ok hugeRoot) = .ok [("r", .double d)] ∧ d.isFinite = false) ∧
      ¬ ({} : ReadingOptions).Materializes (.ok hugeRoot) ∧
      readInstance {} (.ok longRoot) = .error .integerTooLong := by
  have hvalid : ({} : ReadingOptions).IsValid := ⟨rfl, ⟨_, rfl⟩⟩
  have hinfinite : ∃ d, readInstance {} (.ok hugeRoot) = .ok [("r", .double d)] ∧
      d.isFinite = false := by
    obtain ⟨d, hd, hno⟩ := Scalar.exists_infinite_iff.2 isInfinite_huge
    refine ⟨d, ?_, hno⟩
    rw [readInstance_hugeRoot, hd]
    rfl
  refine ⟨hvalid, Xml.Element.namesAreKeys_of_flat (by decide) (by decide), hinfinite, ?_, ?_⟩
  · rintro ⟨fields, hfields, hfinite⟩
    obtain ⟨d, hd, hno⟩ := hinfinite
    rw [hd] at hfields
    cases hfields
    rw [hfinite d (hasDouble_tree_iff.2 .here)] at hno
    cases hno
  · apply (readInstance_eq_error_iff hvalid _ _).2
    have hlong := isOverlong_replicate (Nat.lt_succ_self longestWhole)
    exact Or.inr ⟨longRoot, _, rfl, rfl, readsIn_longRoot, hlong⟩

end ReadingOptions

end SchemaBridge
