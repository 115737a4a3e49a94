import SchemaBridge.Proofs.Instance.OtherArrays

/-!
# Explicit array paths and the other array policies

Two readings that are given the same array paths, and that differ in array names, in the policy for
unbounded elements and in the options of a conversion (`ReadingOptions.SharesPaths`). With a schema,
or when there is a path among the given ones, the other policies are not looked at, and every
document is read alike.

An empty list of array paths shuts out the paths of a schema but not the names: they are asked for
whenever there is neither a schema nor a path (`ForcesName`). Then a document is read alike exactly
when the names of both readings agree about its lone children (`readsAlike_iff_of_sharesPaths`), and
an element named in one of them alone is read differently (`namedReading_not_readsAlike`).
-/

set_option autoImplicit false

namespace SchemaBridge

namespace ReadingOptions

variable {first second options : ReadingOptions}

/-- A text is read as a scalar somewhere in a tree. Which fields are arrays has no say in that. -/
def ReadsIn (options : ReadingOptions) (root : Xml.Element) (text : String) : Prop :=
  (options.shapeWith []).ReadsIn root text

/-- The options of a conversion, where there are any, are valid. -/
def ConvertsValidly (options : ReadingOptions) : Prop :=
  ∃ resolved, Options.resolve options.convertOptions? = .ok resolved

/-- The elements with a name are always items of arrays: without a schema, the name is one of the
array names or, when there are none of these, one of those in the options of the conversion. -/
def ForcesName (options : ReadingOptions) (name : String) : Prop :=
  options.schema? = none ∧
    (name ∈ options.arrayElementNames?.getD [] ∨
      options.arrayElementNames?.getD [] = [] ∧
        ∃ resolved, Options.resolve options.convertOptions? = .ok resolved ∧
          name ∈ resolved.arrayElementNames)

/-- Two readings are given the same array paths and agree in everything but other array policies. -/
structure SharesPaths (first second : ReadingOptions) : Prop where
  given : first.arrayElementPaths?.isSome
  arrayPaths : first.arrayElementPaths? = second.arrayElementPaths?
  listPaths : first.listElementPaths? = second.listElementPaths?
  schema : first.schema? = second.schema?
  texts : first.readsTexts = second.readsTexts
  attributes : first.readsAttributes = second.readsAttributes

/-- The two readings agree about which lone children of a tree are items of arrays. -/
def NamesAgreeIn (first second : ReadingOptions) (root : Xml.Element) : Prop :=
  ∀ names x y, root.StandsAt names x → x.IsLone y →
    (first.ForcesName y.name.localName ↔ second.ForcesName y.name.localName)

/-- The two readings give every document the same value, or fail in the same way. -/
def ReadsAlike (first second : ReadingOptions) : Prop :=
  ∀ document, readInstance first document = readInstance second document

/-! ## Shapes -/

/-- The elements that array names and array paths ask for. -/
def arraysOf (names paths : List String) (name path : String) : Bool :=
  names.contains name || paths.contains path

theorem shape_eq {paths names : List String} (hpaths : options.arrayPaths = .ok paths)
    (hnames : options.arrayNames paths = .ok names) :
    options.shape = .ok ((options.shapeWith []).withArrays (arraysOf names paths)) := by
  rw [shape, hpaths]
  simp only [bind, Except.bind, hnames]
  rfl

theorem readInstance_eq {shape : InstanceShape} (h : options.shape = .ok shape)
    (document : Except Failure Xml.Element) :
    readInstance options document = document.bind shape.treeValue := by
  rw [readInstance, h]
  rfl

theorem arrayPaths_of_given {paths : List String} (h : options.arrayElementPaths? = some paths) :
    options.arrayPaths = .ok paths := by
  rw [arrayPaths, h]

theorem arrayNames_of_schema_or_path {paths : List String}
    (h : options.schema?.isSome ∨ paths ≠ []) : options.arrayNames paths = .ok [] := by
  have hcondition : (options.schema?.isSome || !paths.isEmpty) = true := by
    rw [Bool.or_eq_true, Bool.not_eq_true', List.isEmpty_eq_false_iff]
    exact h
  rw [arrayNames, if_pos hcondition]

/-- The names can always be settled when the options of a conversion are valid. -/
theorem exists_arrayNames (hvalid : options.ConvertsValidly) (paths : List String) :
    ∃ names, options.arrayNames paths = .ok names := by
  obtain ⟨resolved, hresolved⟩ := hvalid
  unfold arrayNames
  split
  · exact ⟨[], rfl⟩
  · split
    · exact ⟨_, rfl⟩
    · next fields _ hfields =>
        rw [hfields] at hresolved
        exact ⟨resolved.arrayElementNames, map_eq_ok_iff.2 ⟨resolved, hresolved, rfl⟩⟩
    · exact ⟨[], rfl⟩

theorem SharesPaths.shapeWith_eq (h : first.SharesPaths second) (arrayPaths : List String) :
    first.shapeWith arrayPaths = second.shapeWith arrayPaths := by
  unfold shapeWith ReadingOptions.listPaths
  rw [h.texts, h.attributes, h.listPaths, h.schema]

/-! ## Precedence -/

/-- With a schema or a path, the other policies are not looked at. -/
theorem readsAlike_of_schema_or_path (h : first.SharesPaths second)
    (hpaths : first.schema?.isSome ∨ first.arrayElementPaths? ≠ some []) :
    first.ReadsAlike second := by
  obtain ⟨paths, hfirst⟩ := Option.isSome_iff_exists.1 h.given
  have hsecond : second.arrayElementPaths? = some paths := h.arrayPaths.symm.trans hfirst
  have hsettled : first.schema?.isSome ∨ paths ≠ [] := by
    refine hpaths.imp_right fun hne hnil => ?_
    exact hne (hnil ▸ hfirst)
  have hshape := shape_eq (arrayPaths_of_given hfirst) (arrayNames_of_schema_or_path hsettled)
  have hother := shape_eq (arrayPaths_of_given hsecond)
    (arrayNames_of_schema_or_path (h.schema ▸ hsettled))
  intro document
  rw [readInstance_eq hshape, readInstance_eq hother, h.shapeWith_eq]

/-- Where no path is given, the names that are settled are those that are forced. -/
theorem forcesName_iff {names : List String} (h : options.arrayNames [] = .ok names)
    (name : String) : options.ForcesName name ↔ name ∈ names := by
  cases hschema : options.schema? with
  | some schema =>
      rw [arrayNames_of_schema_or_path (Or.inl (by rw [hschema]; rfl)), Except.ok.injEq] at h
      simp [ForcesName, hschema, ← h]
  | none =>
      have hopen : ¬ (options.schema?.isSome || !([] : List String).isEmpty) = true := by
        simp [hschema]
      rw [arrayNames, if_neg hopen] at h
      cases hown : options.arrayElementNames?.getD [] with
      | cons first rest =>
          rw [hown, Except.ok.injEq] at h
          simp [ForcesName, hschema, hown, ← h]
      | nil =>
          cases hconvert : options.convertOptions? with
          | none =>
              rw [hown, hconvert, Except.ok.injEq] at h
              simp [ForcesName, hschema, hown, hconvert, ← h, Options.resolve]
          | some fields =>
              rw [hown, hconvert] at h
              obtain ⟨resolved, hresolved, rfl⟩ := map_eq_ok_iff.1 h
              simp [ForcesName, hschema, hown, hconvert, Options.resolve, hresolved]

theorem agreeIn_iff_namesAgreeIn {names others : List String}
    (hfirst : first.arrayNames [] = .ok names) (hsecond : second.arrayNames [] = .ok others)
    (root : Xml.Element) :
    InstanceShape.AgreeIn (arraysOf names []) (arraysOf others []) root ↔
      first.NamesAgreeIn second root := by
  have hname : ∀ name path, arraysOf names [] name path = arraysOf others [] name path ↔
      (first.ForcesName name ↔ second.ForcesName name) := by
    intro name path
    rw [forcesName_iff hfirst, forcesName_iff hsecond, arraysOf, arraysOf, List.contains_nil,
      Bool.or_false, Bool.or_false, Bool.eq_iff_iff, List.contains_iff_mem, List.contains_iff_mem]
  constructor
  · intro h path x y hx hy
    exact (hname _ _).1 (h path x hx y hy)
  · intro h path x hx y hy
    exact (hname _ _).2 (h path x y hx hy)

/-- **Explicit array paths shut out the other policies, unless the list of paths is empty**: then
the names that both readings force decide. -/
theorem readsAlike_iff_of_sharesPaths (h : first.SharesPaths second) :
    (first.schema?.isSome ∨ first.arrayElementPaths? ≠ some [] → first.ReadsAlike second) ∧
      (first.arrayElementPaths? = some [] → first.ConvertsValidly → second.ConvertsValidly →
        ∀ document : Except Failure Xml.Element,
          (∀ root, document = .ok root → root.NamesAreKeys) →
            (readInstance first document = readInstance second document ↔
              ∀ root, document = .ok root →
                (∃ text, first.ReadsIn root text ∧ Scalar.IsOverlong text) ∨
                  first.NamesAgreeIn second root)) := by
  refine ⟨readsAlike_of_schema_or_path h, fun hnone hvalid hother document hkeys => ?_⟩
  obtain ⟨names, hnames⟩ := exists_arrayNames hvalid []
  obtain ⟨others, hothers⟩ := exists_arrayNames hother []
  have hshape := shape_eq (arrayPaths_of_given hnone) hnames
  have hsecond := shape_eq (arrayPaths_of_given (h.arrayPaths.symm.trans hnone)) hothers
  rw [readInstance_eq hshape, readInstance_eq hsecond, ← h.shapeWith_eq]
  cases document with
  | error failure => exact ⟨fun _ => nofun, fun _ => rfl⟩
  | ok root =>
      have hvalues : ((first.shapeWith []).withArrays (arraysOf names [])).treeValue root =
          ((first.shapeWith []).withArrays (arraysOf others [])).treeValue root ↔
            (∃ text, first.ReadsIn root text ∧ Scalar.IsOverlong text) ∨
              first.NamesAgreeIn second root := by
        rw [← agreeIn_iff_namesAgreeIn hnames hothers]
        exact InstanceShape.treeValue_withArrays_eq_iff (hkeys root rfl)
      constructor
      · rintro heq _ ⟨⟩
        exact hvalues.1 heq
      · intro hroots
        exact hvalues.2 (hroots root rfl)

/-! ## An empty list of array paths -/

/-- A reading without array paths that are given, and with a name. -/
def namedReading : ReadingOptions :=
  { arrayElementNames? := some ["a"], arrayElementPaths? := some [] }

/-- The same reading without the name. -/
def unnamedReading : ReadingOptions := { arrayElementPaths? := some [] }

/-- A single child. -/
def loneChild : Xml.Element := { name := { localPart := "a" } }

/-- An element with a single child. -/
def loneRoot : Xml.Element := { name := { localPart := "r" }, content := [.element loneChild] }

theorem loneRoot_namesAreKeys : loneRoot.NamesAreKeys :=
  Xml.Element.namesAreKeys_of_flat (by decide) (by decide)

theorem namedReading_sharesPaths : namedReading.SharesPaths unnamedReading :=
  ⟨rfl, rfl, rfl, rfl, rfl, rfl⟩

/-- **The empty list lets names through**: the single child is an item of an array in the reading
that has its name, and no item of an array in the other one. -/
theorem namedReading_not_readsAlike :
    namedReading.SharesPaths unnamedReading ∧ namedReading.ConvertsValidly ∧
      unnamedReading.ConvertsValidly ∧
      readInstance namedReading (.ok loneRoot) = .ok [("r", .obj [("a", .arr [.str ""])])] ∧
      readInstance unnamedReading (.ok loneRoot) = .ok [("r", .obj [("a", .str "")])] ∧
      ¬ namedReading.ReadsAlike unnamedReading := by
  refine ⟨namedReading_sharesPaths, ⟨_, rfl⟩, ⟨_, rfl⟩, rfl, rfl, fun h => ?_⟩
  have hvalue := h (.ok loneRoot)
  cases hvalue

/-- One given path makes the two readings alike, and without one the names decide. -/
theorem readsAlike_iff_of_sharesPaths_loneRoot :
    ({ namedReading with arrayElementPaths? := some ["r.b"] } : ReadingOptions).ReadsAlike
        { unnamedReading with arrayElementPaths? := some ["r.b"] } ∧
      namedReading.SharesPaths unnamedReading ∧ loneRoot.NamesAreKeys ∧
        (readInstance namedReading (.ok loneRoot) = readInstance unnamedReading (.ok loneRoot) ↔
          ∀ root, (Except.ok loneRoot : Except Failure Xml.Element) = .ok root →
            (∃ text, namedReading.ReadsIn root text ∧ Scalar.IsOverlong text) ∨
              namedReading.NamesAgreeIn unnamedReading root) := by
  refine ⟨?_, namedReading_sharesPaths, loneRoot_namesAreKeys, ?_⟩
  · apply (readsAlike_iff_of_sharesPaths ⟨rfl, rfl, rfl, rfl, rfl, rfl⟩).1
    exact Or.inr (by decide)
  · apply (readsAlike_iff_of_sharesPaths namedReading_sharesPaths).2 rfl ⟨_, rfl⟩ ⟨_, rfl⟩
    rintro _ ⟨⟩
    exact loneRoot_namesAreKeys

end ReadingOptions

end SchemaBridge
