import SchemaBridge.Proofs.Instance.Validity
import SchemaBridge.Proofs.Paths.Consistency

/-!
# Only children in arrays

When an instance is read with a schema, an element that is the only one of its name beside its
siblings is wrapped in an array or not, and the array paths of the schema decide which. A path is a
text, so what decides is the joined path of the element: it must be that of an array that the schema
declares, along whatever names (`Document.WrapsAt`, `Document.wraps_only_children`).

The names of the element need not be those of the declaration. A name may contain points, and then
different sequences of names have one joined path (`pointedDocument_wraps`). Names without points keep
the sequences apart (`Document.wrapsAt_iff_of_no_points`).
-/

set_option autoImplicit false

namespace SchemaBridge

open Xsd

/-! ## Elements of a tree and their values -/

/-- An element stands in a tree, at the local names from the root down to it. -/
inductive Xml.Element.StandsAt (root : Xml.Element) : List String → Xml.Element → Prop where
  | root : StandsAt root [root.name.localName] root
  | child {path : List String} {x y : Xml.Element} (h : StandsAt root path x)
      (hy : y ∈ x.children) : StandsAt root (path ++ [y.name.localName]) y

/-- No local name in a tree is the key of an attribute or of a text. The names of XML are such ones,
as they contain neither of the two signs that these keys start with. -/
def Xml.Element.NamesAreKeys (root : Xml.Element) : Prop :=
  ∀ path x, root.StandsAt path x → IsElementKey x.name.localName

theorem Xml.Element.StandsAt.path_ne_nil {root x : Xml.Element} {path : List String}
    (h : root.StandsAt path x) : path ≠ [] := by
  cases h with
  | root => exact List.cons_ne_nil _ _
  | child => exact List.append_ne_nil_of_right_ne_nil _ (List.cons_ne_nil _ _)

/-- In a tree without grandchildren there are the root and its children. -/
theorem Xml.Element.StandsAt.mem_of_flat {root x : Xml.Element} {path : List String}
    (h : root.StandsAt path x) (hflat : ∀ y ∈ root.children, y.children = []) :
    x ∈ root :: root.children := by
  induction h with
  | root => exact List.mem_cons_self ..
  | child _ hy ih =>
      rcases List.mem_cons.1 ih with rfl | hmem
      · exact List.mem_cons_of_mem _ hy
      · rw [hflat _ hmem] at hy
        cases hy

theorem Xml.Element.namesAreKeys_of_flat {root : Xml.Element}
    (hflat : ∀ y ∈ root.children, y.children = [])
    (hkeys : ∀ x ∈ root :: root.children, IsElementKey x.name.localName) : root.NamesAreKeys :=
  fun _ x hx => hkeys x (hx.mem_of_flat hflat)

namespace InstanceShape

variable {shape : InstanceShape} {path : String}

/-- Each of the elements has a value. -/
theorem ValuesAt.exists_value {elements : List Xml.Element} {values : List Json}
    (h : shape.ValuesAt path elements values) {x : Xml.Element} (hx : x ∈ elements) :
    ∃ value, shape.elementValue path x = .ok value := by
  induction h with
  | nil => cases hx
  | cons hfirst _ ih =>
      rcases List.mem_cons.1 hx with rfl | hx
      · exact ⟨_, hfirst⟩
      · exact ih hx

/-- When the root of a tree has a value, every element in it has one at its joined path. -/
theorem exists_elementValue_of_standsAt {root : Xml.Element} {value : Json}
    (hroot : shape.elementValue root.name.localName root = .ok value) {names : List String}
    {x : Xml.Element} (h : root.StandsAt names x) :
    ∃ v, shape.elementValue (joinedPath names) x = .ok v := by
  induction h with
  | root => exact ⟨value, hroot⟩
  | @child names x y h hy ih =>
      obtain ⟨v, hv⟩ := ih
      obtain ⟨slots, hslots, -⟩ := exists_filledSlots hv
      obtain ⟨values, -, hvalues, -⟩ := hslots y.name.localName
      rw [joinedPath_append h.path_ne_nil]
      exact hvalues.exists_value (List.mem_filter.2 ⟨hy, by simp⟩)

/-- The field of an only child holds its value, in an array where one is asked for. -/
theorem exists_field_of_only_child {x y : Xml.Element} {value : Json} {name : String}
    (h : shape.elementValue path x = .ok value) (hy : Xml.named name x.children = [y])
    (hkey : IsElementKey name) :
    ∃ fields : Fields Json, ∃ inner, value = .obj fields ∧
      shape.elementValue (path ++ "." ++ name) y = .ok inner ∧
      fields.value? name =
        some (if shape.isArray name (path ++ "." ++ name) then .arr [inner] else inner) := by
  have hmem : y ∈ x.children := by
    have hy : y ∈ Xml.named name x.children := hy ▸ List.mem_singleton_self _
    exact (List.mem_filter.1 hy).1
  obtain ⟨fields, rfl, -, -, hfields⟩ :=
    exists_fields_of_elementValue h (Or.inr (List.ne_nil_of_mem hmem))
  have hmarked := ne_append_of_not_isMarked hkey.1
  obtain ⟨values, hvalues, hfield⟩ := hfields name hkey.2 hmarked
  -- One child has one value.
  rw [hy] at hvalues
  cases hvalues with
  | cons hinner hrest =>
      cases hrest
      refine ⟨fields, _, rfl, hinner, ?_⟩
      rw [hfield, slotAfter_none]
      cases shape.isArray name (path ++ "." ++ name) <;> rfl

end InstanceShape

/-! ## The array policy of a reading -/

namespace ReadingOptions

/-- The array policy of reading options: that of the options of a conversion, or else their own names
and their own flag. -/
def policy (reading : ReadingOptions) : Except Failure Options :=
  match reading.convertOptions? with
  | some fields => Options.ofFields fields
  | none =>
      match reading.arrayElementNames? with
      | none => .error .namesExpected
      | some arrayElementNames =>
          .ok { arrayElementNames, treatUnboundedAsArray := reading.treatUnboundedAsArray }

/-- The arrays of a reading are those of a document under an array policy. -/
structure TakesArraysFrom (reading : ReadingOptions) (document : Document) (options : Options) :
    Prop where
  schema : reading.schema? = some document
  no_arrayPaths : reading.arrayElementPaths? = none
  policy : reading.policy = .ok options

/-- The shape of a reading with given array paths and without array names. -/
def shapeWith (reading : ReadingOptions) (arrayPaths : List String) : InstanceShape where
  readsTexts := reading.readsTexts
  readsAttributes := reading.readsAttributes
  isArray := fun _ path => arrayPaths.contains path
  listPaths := reading.listPaths

theorem TakesArraysFrom.arrayPaths_eq {reading : ReadingOptions} {document : Document}
    {options : Options} (h : reading.TakesArraysFrom document options) :
    reading.arrayPaths = .ok (document.arrayPaths options) := by
  have hpolicy := h.policy
  unfold ReadingOptions.policy at hpolicy
  simp only [ReadingOptions.arrayPaths, h.no_arrayPaths, h.schema, schemaArrayPaths]
  cases hconvert : reading.convertOptions? with
  | some fields =>
      simp only [hconvert] at hpolicy ⊢
      -- The options are only looked at when there is a top-level element.
      unfold deriveArrayPaths Document.arrayPaths
      cases rootedSchema? document with
      | none => rfl
      | some schema => simp only [Options.resolve, hpolicy, Except.map]
  | none =>
      simp only [hconvert] at hpolicy ⊢
      cases hnames : reading.arrayElementNames? with
      | none =>
          rw [hnames] at hpolicy
          cases hpolicy
      | some names =>
          rw [hnames] at hpolicy
          cases hpolicy
          rfl

/-- With a schema, array names count for nothing beside the array paths. -/
theorem TakesArraysFrom.shape_eq {reading : ReadingOptions} {document : Document}
    {options : Options} (h : reading.TakesArraysFrom document options) :
    reading.shape = .ok (reading.shapeWith (document.arrayPaths options)) := by
  have hnames : reading.arrayNames (document.arrayPaths options) = .ok [] := by
    simp only [ReadingOptions.arrayNames, h.schema, Option.isSome_some, Bool.true_or, if_true]
  simp only [ReadingOptions.shape, h.arrayPaths_eq, hnames, bind, Except.bind, pure, Except.pure,
    List.contains_nil, Bool.false_or, shapeWith]

end ReadingOptions

/-! ## Declared arrays and wrapped children -/

namespace Xsd.Document

variable {options : Options} {document : Document}

/-- A schema declares an array along a sequence of names: a chain of declarations with these names
enters nothing twice and ends at an element that the options make an array of. -/
def DeclaresArrayAlong (document : Document) (options : Options) (names : List String) : Prop :=
  ∃ schema entries element inSequence repeats, document.schema? = some schema ∧
    DeclaredChain (Registry.ofSchema schema) schema names entries element inSequence repeats ∧
    entries.Nodup ∧ options.Classifies element inSequence repeats

/-- The joined path of a sequence of names is that of a declared array. -/
def WrapsAt (document : Document) (options : Options) (path : List String) : Prop :=
  ∃ names, document.DeclaresArrayAlong options names ∧ joinedPath names = joinedPath path

theorem mem_arrayPaths_iff_wrapsAt {path : List String} :
    joinedPath path ∈ document.arrayPaths options ↔ document.WrapsAt options path := by
  simp only [mem_arrayPaths_iff_schema, Schema.mem_arrayPaths_iff, OpenNames.fresh_empty_iff]
  constructor
  · rintro ⟨schema, hschema, names, entries, element, inSequence, repeats, hchain, hnodup, hjoined,
      harray⟩
    exact ⟨names, ⟨schema, entries, element, inSequence, repeats, hschema, hchain, hnodup, harray⟩,
      hjoined⟩
  · rintro ⟨names, ⟨schema, entries, element, inSequence, repeats, hschema, hchain, hnodup, harray⟩,
      hjoined⟩
    exact ⟨schema, hschema, names, entries, element, inSequence, repeats, hchain, hnodup, hjoined,
      harray⟩

/-- **Names without points** belong to the declared array themselves. -/
theorem wrapsAt_iff_of_no_points {path : List String} (hne : path ≠ [])
    (hpath : ∀ name ∈ path, '.' ∉ name.toList)
    (hdeclared : ∀ names, document.DeclaresArrayAlong options names →
      ∀ name ∈ names, '.' ∉ name.toList) :
    document.WrapsAt options path ↔ document.DeclaresArrayAlong options path := by
  constructor
  · rintro ⟨names, hnames, hjoined⟩
    obtain ⟨schema, entries, element, inSequence, repeats, -, hchain, -, -⟩ := id hnames
    rwa [← joinedPath_inj hchain.path_ne_nil hne (hdeclared names hnames) hpath hjoined]
  · exact fun h => ⟨path, h, rfl⟩

/-- How an only child is read: in an array where its joined path is that of a declared array, and
bare elsewhere. -/
structure ReadsOnlyChild (document : Document) (options : Options) (shape : InstanceShape)
    (path : List String) (x : Xml.Element) (name : String) (y : Xml.Element)
    (fields : Fields Json) (inner : Json) : Prop where
  parent : shape.elementValue (joinedPath path) x = .ok (.obj fields)
  child : shape.elementValue (joinedPath (path ++ [name])) y = .ok inner
  wrapped : document.WrapsAt options (path ++ [name]) → fields.value? name = some (.arr [inner])
  bare : ¬ document.WrapsAt options (path ++ [name]) → fields.value? name = some inner

/-- **Only children are wrapped where the joined path is that of a declared array**, in every instance
that has a value; and where no name contains a point, the sequence of names itself is declared. -/
theorem wraps_only_children {reading : ReadingOptions}
    (hreading : reading.TakesArraysFrom document options) {root : Xml.Element}
    (hkeys : root.NamesAreKeys) :
    readInstance reading (.ok root) = .error .integerTooLong ∨
      ∃ shape value, reading.shape = .ok shape ∧
        readInstance reading (.ok root) = .ok [(root.name.localName, value)] ∧
        shape.elementValue root.name.localName root = .ok value ∧
        ∀ path x name y, root.StandsAt path x → Xml.named name x.children = [y] →
          (∃ fields inner,
            document.ReadsOnlyChild options shape path x name y fields inner) ∧
          ((∀ part ∈ path ++ [name], '.' ∉ part.toList) →
            (∀ names, document.DeclaresArrayAlong options names →
              ∀ part ∈ names, '.' ∉ part.toList) →
            (document.WrapsAt options (path ++ [name]) ↔
              document.DeclaresArrayAlong options (path ++ [name]))) := by
  have hshape := hreading.shape_eq
  generalize hwith : reading.shapeWith (document.arrayPaths options) = shape at hshape
  simp only [readInstance, hshape, bind, Except.bind, InstanceShape.treeValue, pure, Except.pure]
  cases hroot : shape.elementValue root.name.localName root with
  | error failure =>
      left
      rw [InstanceShape.elementValue_error _ _ hroot]
  | ok value =>
      refine Or.inr ⟨shape, value, rfl, rfl, hroot, fun path x name y hx hy => ⟨?_, ?_⟩⟩
      · obtain ⟨v, hv⟩ := InstanceShape.exists_elementValue_of_standsAt hroot hx
        have hchild : y ∈ x.children ∧ y.name.localName = name := by
          have hmem : y ∈ Xml.named name x.children := hy ▸ List.mem_singleton_self _
          simpa [Xml.named] using hmem
        have hkey : IsElementKey name := hchild.2 ▸ hkeys _ y (.child hx hchild.1)
        obtain ⟨fields, inner, rfl, hinner, hfield⟩ :=
          InstanceShape.exists_field_of_only_child hv hy hkey
        rw [← joinedPath_append hx.path_ne_nil] at hinner hfield
        have harray : shape.isArray name (joinedPath (path ++ [name])) = true ↔
            document.WrapsAt options (path ++ [name]) := by
          rw [← hwith, ← mem_arrayPaths_iff_wrapsAt]
          exact List.contains_iff_mem
        refine ⟨fields, inner, hv, hinner, fun hwraps => ?_, fun hwraps => ?_⟩
        · rw [hfield, if_pos (harray.2 hwraps)]
        · rw [hfield, if_neg fun h => hwraps (harray.1 h)]
      · exact wrapsAt_iff_of_no_points (List.append_ne_nil_of_right_ne_nil _ (List.cons_ne_nil _ _))

/-! ## A name with a point -/

/-- An element of a simple type. -/
def innermostElement : Element := { name? := some "b", typeName? := some "xs:string" }

/-- An element with that one in it. -/
def plainElement : Element :=
  { name? := some "a"
    complexType? := some { sequence? := some { elements := [innermostElement] } } }

/-- Any number of elements whose name reads like the path to the inner one. -/
def pointedElement : Element :=
  { name? := some "a.b", typeName? := some "xs:string", occurs := { max? := some "unbounded" } }

/-- The element of both. -/
def pointedTop : Element :=
  { name? := some "r"
    complexType? := some { sequence? := some { elements := [plainElement, pointedElement] } } }

/-- A schema with that element. -/
def pointedSchema : Schema := { elements := [pointedTop] }

/-- A document with that schema. -/
def pointedDocument : Document := { schema? := some pointedSchema }

/-- The document is read with every unbounded element as an array. -/
def pointedReading : ReadingOptions :=
  { schema? := some pointedDocument
    convertOptions? := some [("treat_unbounded_as_array", .bool true)] }

/-- An empty inner element. -/
def innerChild : Xml.Element := { name := { localPart := "b" } }

/-- The outer element with the inner one. -/
def outerChild : Xml.Element := { name := { localPart := "a" }, content := [.element innerChild] }

/-- An instance without a name that has a point. -/
def pointedRoot : Xml.Element := { name := { localPart := "r" }, content := [.element outerChild] }

theorem pointedReading_takesArraysFrom :
    pointedReading.TakesArraysFrom pointedDocument unboundedAsArrays where
  schema := rfl
  no_arrayPaths := rfl
  policy := rfl

theorem eq_of_pointedRoot_standsAt {path : List String} {x : Xml.Element}
    (h : pointedRoot.StandsAt path x) : x = pointedRoot ∨ x = outerChild ∨ x = innerChild := by
  induction h with
  | root => exact Or.inl rfl
  | child _ hy ih =>
      rcases ih with rfl | rfl | rfl
      · exact Or.inr (Or.inl (List.mem_singleton.1 hy))
      · exact Or.inr (Or.inr (List.mem_singleton.1 hy))
      · cases hy

theorem pointedRoot_namesAreKeys : pointedRoot.NamesAreKeys := by
  intro path x hx
  rcases eq_of_pointedRoot_standsAt hx with rfl | rfl | rfl <;> decide

theorem outerChild_standsAt : pointedRoot.StandsAt ["r", "a"] outerChild :=
  Xml.Element.StandsAt.child (y := outerChild) .root (List.mem_singleton_self _)

theorem arrayPaths_pointedDocument :
    pointedDocument.arrayPaths unboundedAsArrays = ["r.a.b"] := by
  have hcollect : Collector.collectWithin 20
      { kind := .arrays unboundedAsArrays, registry := Registry.ofSchema pointedSchema }
      pointedSchema =
      some { kind := .arrays unboundedAsArrays, registry := Registry.ofSchema pointedSchema,
             paths := ["r.a.b"] } := rfl
  have hschema : pointedDocument.schema? = some pointedSchema := rfl
  exact find_eq_of_collectWithin hschema (by decide) hcollect

theorem listPaths_pointedDocument : deriveListPaths pointedDocument = [] := by
  have hcollect : Collector.collectWithin 20
      { kind := .lists, registry := Registry.ofSchema pointedSchema } pointedSchema =
      some { kind := .lists, registry := Registry.ofSchema pointedSchema } := rfl
  have hschema : pointedDocument.schema? = some pointedSchema := rfl
  exact find_eq_of_collectWithin hschema (by decide) hcollect

/-- The chains of the schema, with the names that they spell. -/
theorem eq_of_pointedSchema_chain {names : List String} {entries : List Entry} {element : Element}
    {inSequence repeats : Bool}
    (h : DeclaredChain (Registry.ofSchema pointedSchema) pointedSchema names entries element
      inSequence repeats) :
    repeats = false ∧ ((names = ["r"] ∧ element = pointedTop) ∨
      (names = ["r", "a"] ∧ element = plainElement) ∨
      (names = ["r", "a.b"] ∧ element = pointedElement) ∨
      (names = ["r", "a", "b"] ∧ element = innermostElement)) := by
  have hends : ∀ {outer inner : Element} {below : List Entry} {repeated : Bool},
      outer = pointedElement ∨ outer = innermostElement →
      ¬ outer.Declares (Registry.ofSchema pointedSchema) below repeated inner := by
    rintro outer inner below repeated (rfl | rfl) <;>
      exact Element.not_declares rfl fun name hname => rfl
  induction h with
  | root helement hname =>
      rw [List.mem_singleton.1 helement] at hname ⊢
      cases hname
      exact ⟨rfl, Or.inl ⟨rfl, rfl⟩⟩
  | next _ hdecl hname ih =>
      rcases ih.2 with ⟨rfl, rfl⟩ | ⟨rfl, rfl⟩ | ⟨-, rfl⟩ | ⟨-, rfl⟩
      · obtain ⟨hmem, -, rfl⟩ := hdecl.of_plain rfl rfl rfl rfl
        rcases List.mem_pair.1 hmem with rfl | rfl
        · cases hname
          exact ⟨rfl, Or.inr (Or.inl ⟨rfl, rfl⟩)⟩
        · cases hname
          exact ⟨rfl, Or.inr (Or.inr (Or.inl ⟨rfl, rfl⟩))⟩
      · obtain ⟨hmem, -, rfl⟩ := hdecl.of_plain rfl rfl rfl rfl
        rw [List.mem_singleton.1 hmem] at hname ⊢
        cases hname
        exact ⟨rfl, Or.inr (Or.inr (Or.inr ⟨rfl, rfl⟩))⟩
      · exact absurd hdecl (hends (Or.inl rfl))
      · exact absurd hdecl (hends (Or.inr rfl))

/-- The only array of the schema is the element with the pointed name. -/
theorem eq_of_pointedDocument_declaresArrayAlong {names : List String}
    (h : pointedDocument.DeclaresArrayAlong unboundedAsArrays names) : names = ["r", "a.b"] := by
  obtain ⟨schema, entries, element, inSequence, repeats, hschema, hchain, -, harray⟩ := h
  cases hschema
  obtain ⟨rfl, hends⟩ := eq_of_pointedSchema_chain hchain
  have hmax : element.occurs.max? = some "unbounded" := by
    rcases harray with ⟨hrepeats, -⟩ | ⟨-, hmax, -⟩
    · cases hrepeats
    · exact hmax
  rcases hends with ⟨-, rfl⟩ | ⟨-, rfl⟩ | ⟨rfl, -⟩ | ⟨-, rfl⟩
  · cases hmax
  · cases hmax
  · rfl
  · cases hmax

theorem readInstance_pointedRoot : readInstance pointedReading (.ok pointedRoot) =
    .ok [("r", .obj [("a", .obj [("b", .arr [.str ""])])])] := by
  have hshape := pointedReading_takesArraysFrom.shape_eq
  have hlists : pointedReading.listPaths = [] := listPaths_pointedDocument
  rw [ReadingOptions.shapeWith, arrayPaths_pointedDocument, hlists] at hshape
  simp only [readInstance, hshape, bind, Except.bind]
  rfl

/-- **A child that is wrapped without being declared an array**: the path of the inner element is
spelled as that of the element with the pointed name. -/
theorem pointedDocument_wraps_undeclared_child :
    pointedReading.TakesArraysFrom pointedDocument unboundedAsArrays ∧ pointedRoot.NamesAreKeys ∧
      pointedRoot.StandsAt ["r", "a"] outerChild ∧
      Xml.named "b" outerChild.children = [innerChild] ∧
      ¬ pointedDocument.DeclaresArrayAlong unboundedAsArrays ["r", "a", "b"] ∧
      readInstance pointedReading (.ok pointedRoot) =
        .ok [("r", .obj [("a", .obj [("b", .arr [.str ""])])])] := by
  refine ⟨pointedReading_takesArraysFrom, pointedRoot_namesAreKeys, outerChild_standsAt, rfl,
    fun h => ?_, readInstance_pointedRoot⟩
  exact absurd (eq_of_pointedDocument_declaresArrayAlong h) (by decide)

/-- The child is read as its joined path says. -/
theorem wraps_only_children_pointedDocument :
    pointedReading.TakesArraysFrom pointedDocument unboundedAsArrays ∧ pointedRoot.NamesAreKeys ∧
      ∃ shape fields inner, pointedDocument.WrapsAt unboundedAsArrays ["r", "a", "b"] ∧
        pointedDocument.ReadsOnlyChild unboundedAsArrays shape ["r", "a"] outerChild "b" innerChild
          fields inner ∧
        fields.value? "b" = some (.arr [inner]) := by
  refine ⟨pointedReading_takesArraysFrom, pointedRoot_namesAreKeys, ?_⟩
  have hwraps : pointedDocument.WrapsAt unboundedAsArrays ["r", "a", "b"] := by
    rw [← mem_arrayPaths_iff_wrapsAt, arrayPaths_pointedDocument]
    exact List.mem_singleton_self _
  rcases wraps_only_children pointedReading_takesArraysFrom pointedRoot_namesAreKeys with
    h | ⟨shape, value, -, -, -, h⟩
  · rw [readInstance_pointedRoot] at h
    cases h
  · obtain ⟨⟨fields, inner, hreads⟩, -⟩ := h ["r", "a"] outerChild "b" innerChild
      outerChild_standsAt rfl
    exact ⟨shape, fields, inner, hwraps, hreads, hreads.wrapped hwraps⟩

end Xsd.Document

end SchemaBridge
