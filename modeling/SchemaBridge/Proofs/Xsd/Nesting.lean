import SchemaBridge.Proofs.Xsd.Declares
import SchemaBridge.Proofs.Xsd.Registered
import SchemaBridge.Xsd.Nesting

/-!
# How deep declarations nest

What lies in a declaration nests less deeply than the declaration. From the nesting of a document and
the number of its registered names comes the depth (`Document.callDepth`) within which every walk
over its declarations ends, whatever refers to whatever: along a branch a walk goes down, and at a
reference it opens a name. What a walk can still meet below references is `Document.remaining`, or
`Registry.remaining` and `Registry.walkRemaining` where only the registry is known; each is a
`Registry.Room`, or a `Registry.WalkRoom` for walks that follow registered types too.
-/

set_option autoImplicit false

namespace SchemaBridge.Xsd

/-- A depth of calls that suffices for a walk from a declaration of some nesting: two calls for each
declaration on the way, and once more the nesting of the document for each name that can be
opened. -/
def Document.callDepth (document : Document) (nesting : Nat) : Nat :=
  2 * (nesting + (Registry.ofDocument document).nameCount * document.nesting) + 2

/-! ## What lies in a declaration nests less deeply -/

theorem SimpleType.nesting_lt {type : SimpleType} {list : ListType} (h : type.list? = some list) :
    list.nesting < type.nesting := by
  obtain ⟨name?, restriction?, union?, list?⟩ := type
  cases h
  simp only [SimpleType.nesting, ListType.optionalNesting]
  omega

theorem ListType.nesting_lt {list : ListType} {type : SimpleType}
    (h : list.simpleType? = some type) : type.nesting < list.nesting := by
  obtain ⟨itemType?, simpleType?⟩ := list
  cases h
  simp only [ListType.nesting, SimpleType.optionalNesting]
  omega

theorem SimpleType.nesting_pos (type : SimpleType) : 0 < type.nesting := by
  cases type
  simp only [SimpleType.nesting]
  omega

theorem ListType.nesting_pos (list : ListType) : 0 < list.nesting := by
  cases list
  simp only [ListType.nesting]
  omega

theorem Element.complexType_nesting_lt {element : Element} {type : ComplexType}
    (h : element.complexType? = some type) : type.nesting < element.nesting := by
  cases element
  cases h
  simp only [Element.nesting, ComplexType.optionalNesting]
  omega

theorem Element.simpleType_nesting_lt {element : Element} {type : SimpleType}
    (h : element.simpleType? = some type) : type.nesting < element.nesting := by
  cases element
  cases h
  simp only [Element.nesting, SimpleType.optionalNesting]
  omega

theorem Element.nesting_pos (element : Element) : 0 < element.nesting := by
  cases element
  simp only [Element.nesting]
  omega

theorem ComplexType.sequence_nesting_lt (type : ComplexType) :
    Sequence.optionalNesting type.sequence? < type.nesting := by
  cases type
  simp only [ComplexType.nesting]
  omega

theorem Extension.sequence_nesting_lt (extension : Extension) :
    Sequence.optionalNesting extension.sequence? < extension.nesting := by
  cases extension
  simp only [Extension.nesting]
  omega

theorem ComplexType.complexContent_nesting_lt {type : ComplexType} {extension : Extension}
    (h : type.complexContent? = some extension) : extension.nesting < type.nesting := by
  cases type
  cases h
  simp only [ComplexType.nesting, Extension.optionalNesting]
  omega

theorem Group.sequence_nesting_lt {group : Group} {sequence : Sequence}
    (h : group.sequence? = some sequence) : sequence.nesting < group.nesting := by
  cases group
  cases h
  simp only [Group.nesting, Sequence.optionalNesting]
  omega

theorem nesting_le_elementsNesting {element : Element} {elements : List Element}
    (h : element ∈ elements) : element.nesting ≤ elementsNesting elements := by
  induction elements with
  | nil => cases h
  | cons first rest ih =>
      simp only [elementsNesting]
      rcases List.mem_cons.1 h with rfl | h
      · omega
      · have := ih h
        omega

theorem nesting_le_groupsNesting {group : Group} {groups : List Group} (h : group ∈ groups) :
    group.nesting ≤ groupsNesting groups := by
  induction groups with
  | nil => cases h
  | cons first rest ih =>
      simp only [groupsNesting]
      rcases List.mem_cons.1 h with rfl | h
      · omega
      · have := ih h
        omega

theorem Sequence.element_nesting_lt {sequence : Sequence} {element : Element}
    (h : element ∈ sequence.elements) : element.nesting < sequence.nesting := by
  have hle := nesting_le_elementsNesting h
  cases sequence
  simp only [Sequence.nesting] at hle ⊢
  omega

theorem le_foldr_max {α : Type} (f : α → Nat) {a : α} {list : List α} (h : a ∈ list) :
    f a ≤ (list.map f).foldr max 0 := by
  induction list with
  | nil => cases h
  | cons first rest ih =>
      simp only [List.map_cons, List.foldr_cons]
      rcases List.mem_cons.1 h with rfl | h
      · omega
      · have := ih h
        omega

theorem Schema.element_nesting_lt {schema : Schema} {element : Element}
    (h : element ∈ schema.elements) : element.nesting < schema.nesting := by
  have hle := nesting_le_elementsNesting h
  simp only [Schema.nesting]
  omega

theorem Schema.complexType_nesting_lt {schema : Schema} {type : ComplexType}
    (h : type ∈ schema.complexTypes) : type.nesting < schema.nesting := by
  have hle := le_foldr_max ComplexType.nesting h
  simp only [Schema.nesting]
  omega

theorem Schema.simpleType_nesting_lt {schema : Schema} {type : SimpleType}
    (h : type ∈ schema.simpleTypes) : type.nesting < schema.nesting := by
  have hle := le_foldr_max SimpleType.nesting h
  simp only [Schema.nesting]
  omega

theorem Schema.group_nesting_lt {schema : Schema} {group : Group} (h : group ∈ schema.groups) :
    group.nesting < schema.nesting := by
  have hle := nesting_le_groupsNesting h
  simp only [Schema.nesting]
  omega

theorem Schema.nesting_pos (schema : Schema) : 0 < schema.nesting := by
  simp only [Schema.nesting]
  omega

/-! ## What a walk has before it -/

/-- What a walk with some open names can still meet below references: the nesting of the document
once for each name that can be opened. -/
def Document.remaining (document : Document) (names : OpenNames) : Nat :=
  (Registry.ofDocument document).unopened names * document.nesting

theorem Registry.unopened_le_nameCount (registry : Registry) (names : OpenNames) :
    registry.unopened names ≤ registry.nameCount := by
  have hle : ∀ kind, registry.unopenedOf names kind ≤ (registry.namesOf kind).length :=
    fun _ => List.countP_le_length
  have hc := hle .complexType
  have hs := hle .simpleType
  have hg := hle .group
  simp only [Registry.namesOf, Fields.names, List.length_map] at hc hs hg
  unfold Registry.unopened Registry.nameCount
  omega

theorem Document.remaining_le (document : Document) (names : OpenNames) :
    document.remaining names ≤ (Registry.ofDocument document).nameCount * document.nesting :=
  Nat.mul_le_mul_right _ (Registry.unopened_le_nameCount _ names)

/-- One name fewer that can be opened leaves one nesting less, which pays for anything that nests
less deeply. -/
theorem nesting_add_mul_lt {fewer names nesting deepest : Nat} (hnames : fewer < names)
    (hnesting : nesting < deepest) : nesting + fewer * deepest < names * deepest := by
  have hle := Nat.mul_le_mul_right deepest (Nat.succ_le_of_lt hnames)
  rw [Nat.succ_mul] at hle
  omega

/-- Opening one of the names that can be opened pays for any declaration of the document. -/
theorem Document.remaining_lt {document : Document} {names inner : OpenNames} {nesting : Nat}
    (hopen : (Registry.ofDocument document).unopened inner <
      (Registry.ofDocument document).unopened names)
    (hnesting : nesting < document.nesting) :
    nesting + document.remaining inner < document.remaining names :=
  nesting_add_mul_lt hopen hnesting

theorem Document.remaining_le_of_enter (document : Document) {names inner : OpenNames}
    {kind : DeclarationKind} {name? : Option String} (h : names.enter kind name? = some inner) :
    document.remaining inner ≤ document.remaining names :=
  Nat.mul_le_mul_right _ (Registry.unopened_le_of_enter _ h)

theorem Document.nesting_pos (document : Document) : 0 < document.nesting :=
  Schema.nesting_pos _

theorem Document.remaining_lt_of_enterGroup? {document : Document} {names inner : OpenNames}
    {ref? : Option String} {content : Sequence}
    (h : (Registry.ofDocument document).enterGroup? names ref? = some (inner, content)) :
    content.nesting + document.remaining inner < document.remaining names := by
  refine Document.remaining_lt (Registry.unopened_lt_of_enterGroup? h) ?_
  obtain ⟨name, -, hcontent, -⟩ := (Registry.enterGroup?_eq_some_iff ..).1 h
  obtain ⟨group, hgroup, hsequence⟩ := Option.bind_eq_some_iff.1 hcontent
  cases hschema : document.schema? with
  | none => simp [Registry.ofDocument, hschema, Fields.value?] at hgroup
  | some schema =>
      simp only [Registry.ofDocument, hschema] at hgroup
      have hlt := Group.sequence_nesting_lt hsequence
      have hgroup' := Schema.group_nesting_lt (Registry.mem_of_groups_value? hgroup).1
      simp only [Document.nesting, hschema, Option.getD_some]
      omega

/-- A measure of what a walk with some open names can still meet below references: entering a
declaration never adds to it, and entering a group takes off all that is nested in the group. -/
structure Registry.Room (registry : Registry) (room : OpenNames → Nat) : Prop where
  le_of_enter : ∀ {names inner : OpenNames} {kind : DeclarationKind} {name? : Option String},
    names.enter kind name? = some inner → room inner ≤ room names
  lt_of_enterGroup? : ∀ {names inner : OpenNames} {ref? : Option String} {content : Sequence},
    registry.enterGroup? names ref? = some (inner, content) →
      content.nesting + room inner < room names

theorem Document.room (document : Document) :
    (Registry.ofDocument document).Room document.remaining where
  le_of_enter := document.remaining_le_of_enter
  lt_of_enterGroup? := Document.remaining_lt_of_enterGroup?

/-- A measure for walks that enter registered types as well: a complex type takes off all that is
nested in it, and a simple type takes off something. -/
structure Registry.WalkRoom (registry : Registry) (room : OpenNames → Nat) : Prop
    extends registry.Room room where
  lt_of_enterComplexType? : ∀ {names inner : OpenNames} {name? : Option String} {type : ComplexType},
    registry.enterComplexType? names name? = some (inner, type) →
      type.nesting + room inner < room names
  lt_of_enterSimpleType? : ∀ {names inner : OpenNames} {name? : Option String} {type : SimpleType},
    registry.enterSimpleType? names name? = some (inner, type) → room inner < room names

/-- The deepest group, once for each name that can be opened. -/
def Registry.remaining (registry : Registry) (names : OpenNames) : Nat :=
  registry.unopened names * registry.groupNesting

theorem Registry.remaining_le (registry : Registry) (names : OpenNames) :
    registry.remaining names ≤ registry.nameCount * registry.groupNesting :=
  Nat.mul_le_mul_right _ (registry.unopened_le_nameCount names)

theorem Registry.sequence_nesting_lt_groupNesting {registry : Registry} {name : String}
    {content : Sequence}
    (h : (registry.groups.value? name).bind Group.sequence? = some content) :
    content.nesting < registry.groupNesting := by
  obtain ⟨group, hgroup, hsequence⟩ := Option.bind_eq_some_iff.1 h
  have hmem : group ∈ registry.groups.map Prod.snd :=
    List.mem_map.2 ⟨(name, group), Fields.mem_of_value? hgroup, rfl⟩
  exact Nat.lt_of_lt_of_le (Group.sequence_nesting_lt hsequence) (nesting_le_groupsNesting hmem)

theorem Registry.room (registry : Registry) : registry.Room registry.remaining where
  le_of_enter h := Nat.mul_le_mul_right _ (Registry.unopened_le_of_enter _ h)
  lt_of_enterGroup? h := by
    have hopen := Registry.unopened_lt_of_enterGroup? h
    obtain ⟨name, -, hcontent, -⟩ := (Registry.enterGroup?_eq_some_iff ..).1 h
    exact nesting_add_mul_lt hopen (Registry.sequence_nesting_lt_groupNesting hcontent)

theorem Document.remaining_lt_of_enterComplexType? {document : Document}
    {names inner : OpenNames} {name? : Option String} {type : ComplexType}
    (h : (Registry.ofDocument document).enterComplexType? names name? = some (inner, type)) :
    type.nesting + document.remaining inner < document.remaining names := by
  refine Document.remaining_lt (Registry.unopened_lt_of_enterComplexType? h) ?_
  obtain ⟨name, -, htype, -⟩ := (Registry.enterComplexType?_eq_some_iff ..).1 h
  cases hschema : document.schema? with
  | none => simp [Registry.ofDocument, hschema, Fields.value?] at htype
  | some schema =>
      simp only [Registry.ofDocument, hschema] at htype
      have hlt := Schema.complexType_nesting_lt (Registry.mem_of_complexTypes_value? htype).1
      simp only [Document.nesting, hschema, Option.getD_some]
      exact hlt

theorem Document.remaining_lt_of_enterSimpleType? {document : Document}
    {names inner : OpenNames} {name? : Option String} {type : SimpleType}
    (h : (Registry.ofDocument document).enterSimpleType? names name? = some (inner, type)) :
    document.remaining inner < document.remaining names := by
  have hlt : 0 + document.remaining inner < document.remaining names :=
    Document.remaining_lt (Registry.unopened_lt_of_enterSimpleType? h) document.nesting_pos
  omega

theorem Document.walkRoom (document : Document) :
    (Registry.ofDocument document).WalkRoom document.remaining where
  toRoom := document.room
  lt_of_enterComplexType? := Document.remaining_lt_of_enterComplexType?
  lt_of_enterSimpleType? := Document.remaining_lt_of_enterSimpleType?

/-- More than the deepest group or complex type, once for each name that can be opened. -/
def Registry.walkRemaining (registry : Registry) (names : OpenNames) : Nat :=
  registry.unopened names * (registry.contentNesting + 1)

theorem Registry.walkRemaining_le (registry : Registry) (names : OpenNames) :
    registry.walkRemaining names ≤ registry.nameCount * (registry.contentNesting + 1) :=
  Nat.mul_le_mul_right _ (registry.unopened_le_nameCount names)

theorem Registry.walkRoom (registry : Registry) : registry.WalkRoom registry.walkRemaining where
  le_of_enter h := Nat.mul_le_mul_right _ (Registry.unopened_le_of_enter _ h)
  lt_of_enterGroup? h := by
    have hopen := Registry.unopened_lt_of_enterGroup? h
    obtain ⟨name, -, hcontent, -⟩ := (Registry.enterGroup?_eq_some_iff ..).1 h
    have hlt := Registry.sequence_nesting_lt_groupNesting hcontent
    have hle := Nat.le_max_left registry.groupNesting
      ((registry.complexTypes.map fun entry => entry.2.nesting).foldr max 0)
    exact nesting_add_mul_lt hopen (by unfold contentNesting; omega)
  lt_of_enterComplexType? h := by
    have hopen := Registry.unopened_lt_of_enterComplexType? h
    obtain ⟨name, -, htype, -⟩ := (Registry.enterComplexType?_eq_some_iff ..).1 h
    have hentry := le_foldr_max (fun entry : String × ComplexType => entry.2.nesting)
      (Fields.mem_of_value? htype)
    have hle := Nat.le_max_right registry.groupNesting
      ((registry.complexTypes.map fun entry => entry.2.nesting).foldr max 0)
    exact nesting_add_mul_lt hopen (by unfold contentNesting; simp only at hentry; omega)
  lt_of_enterSimpleType? h := by
    have hopen := Registry.unopened_lt_of_enterSimpleType? h
    have hlt : 0 + registry.walkRemaining _ < registry.walkRemaining _ :=
      nesting_add_mul_lt hopen (Nat.succ_pos registry.contentNesting)
    omega

end SchemaBridge.Xsd
