import SchemaBridge.Proofs.Xsd.Regular
import SchemaBridge.Xsd.Reader

/-!
# Type names that a schema uses

A schema mentions a type name in five places: as the type of an element or of an attribute, as the
base of an extension, as the type of the items of a list, and as a member of a union
(`Schema.Mentions`). Restrictions are not among them: a restriction takes over a built-in type and
never refers to one.

In the first four places an empty text is no name. The members of a union are the words of a text,
and no word is empty, so a schema that was read from a tree mentions no empty name at all
(`membersNamed_ofTree`, `Schema.Mentions.ne_empty`).
-/

set_option autoImplicit false

namespace SchemaBridge.Xsd

/-- A schema contains a simple type: at the top, inside an element, or as the items of a list that
it contains. -/
inductive Schema.ContainsSimple (schema : Schema) : SimpleType → Prop where
  | top {type : SimpleType} (h : type ∈ schema.simpleTypes) : ContainsSimple schema type
  | inline {element : Element} {type : SimpleType} (h : schema.Contains (.element element))
      (htype : element.simpleType? = some type) : ContainsSimple schema type
  | items {outer type : SimpleType} {list : ListType} (h : ContainsSimple schema outer)
      (hlist : outer.list? = some list) (htype : list.simpleType? = some type) :
      ContainsSimple schema type

/-- A complex type has an extension, of complex or of simple content. -/
def ComplexType.Extends (type : ComplexType) (extension : Extension) : Prop :=
  type.complexContent? = some extension ∨ type.simpleContent? = some extension

/-- A schema uses a type name. -/
inductive Schema.Mentions (schema : Schema) : String → Prop where
  | element {element : Element} {name : String} (h : schema.Contains (.element element))
      (hname : nonempty? element.typeName? = some name) : Mentions schema name
  | base {type : ComplexType} {extension : Extension} {name : String}
      (h : schema.Contains (.complexType type)) (hextension : type.Extends extension)
      (hname : nonempty? extension.base? = some name) : Mentions schema name
  | attributeType {type : ComplexType} {extension : Extension} {declaration : Attribute}
      {name : String} (h : schema.Contains (.complexType type))
      (hextension : type.Extends extension) (hdeclaration : declaration ∈ extension.attributes)
      (hname : nonempty? declaration.typeName? = some name) : Mentions schema name
  | item {type : SimpleType} {list : ListType} {name : String} (h : schema.ContainsSimple type)
      (hlist : type.list? = some list) (hname : nonempty? list.itemType? = some name) :
      Mentions schema name
  | member {type : SimpleType} {union : Union} {name : String} (h : schema.ContainsSimple type)
      (hunion : type.union? = some union) (hname : name ∈ union.memberTypes) :
      Mentions schema name

/-- The extension that gives a type its base and attributes is one of the type's own. -/
theorem extends_of_contentShape {type : ComplexType} {base : String} {extension : Extension}
    (h : contentShape type = .extended base extension ∨ contentShape type = .text base extension) :
    type.Extends extension ∧ nonempty? extension.base? = some base := by
  rcases h with h | h
  · obtain ⟨hextension, hbase⟩ := (contentShape_eq_extended_iff ..).1 h
    exact ⟨Or.inl hextension, hbase⟩
  · rw [contentShape_eq] at h
    split at h
    · cases h
    · split at h
      · rename_i base extension hextended
        cases h
        obtain ⟨hextension, hbase⟩ := (extendedBase?_eq_some_iff ..).1 hextended
        exact ⟨Or.inr hextension, hbase⟩
      · cases h

/-! ## Empty names -/

/-- No union lists an empty member. -/
def Schema.MembersNamed (schema : Schema) : Prop :=
  ∀ type union, schema.ContainsSimple type → type.union? = some union → "" ∉ union.memberTypes

theorem Schema.Mentions.ne_empty {schema : Schema} {name : String} (h : schema.Mentions name)
    (hmembers : schema.MembersNamed) : name ≠ "" := by
  have hne : ∀ {text? : Option String}, nonempty? text? = some name → name ≠ "" :=
    fun h => ((nonempty?_eq_some_iff ..).1 h).2
  cases h with
  | element _ hname => exact hne hname
  | base _ _ hname => exact hne hname
  | attributeType _ _ _ hname => exact hne hname
  | item _ _ hname => exact hne hname
  | member htype hunion hname => exact fun heq => hmembers _ _ htype hunion (heq ▸ hname)

/-- A word has characters. -/
theorem nil_not_mem_words (cs : List Char) : [] ∉ Text.words cs := by
  have hfrom : ∀ (cs piece : List Char), [] ∉ Text.wordsFrom piece cs := by
    intro cs
    induction cs with
    | nil =>
        intro piece
        cases piece <;> simp [Text.wordsFrom]
    | cons c rest ih =>
        intro piece
        unfold Text.wordsFrom
        split
        · cases piece with
          | nil => exact ih []
          | cons first more =>
              intro h
              rcases List.mem_cons.1 h with heq | h
              · simp at heq
              · exact ih [] h
        · exact ih (c :: piece)
  exact hfrom cs []

theorem not_mem_memberTypes_ofNode (node : Node) : "" ∉ (Union.ofNode node).memberTypes := by
  intro h
  obtain ⟨word, hword, heq⟩ := List.mem_map.1 h
  have hnil : word = [] := by
    rw [← String.toList_ofList (l := word), heq]
    rfl
  exact nil_not_mem_words _ (hnil ▸ hword)

/-- A declaration that was read from a node. -/
def Component.IsRead : Component → Prop
  | .element e => ∃ node, e = Element.ofNode node
  | .complexType t => ∃ node, t = ComplexType.ofNode node
  | .sequence s => ∃ node, s = Sequence.ofNode node

theorem Extension.exists_of_ofContent? {node : Node} {extension : Extension}
    (h : Extension.ofContent? node = some extension) :
    ∃ inner, extension = Extension.ofNode inner := by
  unfold Extension.ofContent? at h
  obtain ⟨inner, -, rfl⟩ := Option.map_eq_some_iff.1 h
  exact ⟨inner.1, rfl⟩

/-- Whatever a read schema contains was read. -/
theorem Schema.Contains.isRead {node : Node} {component : Component}
    (h : (Schema.ofNode node).Contains component) : component.IsRead := by
  induction h with
  | element h =>
      obtain ⟨inner, -, rfl⟩ := List.mem_map.1 h
      exact ⟨inner, rfl⟩
  | complexType h =>
      obtain ⟨inner, -, rfl⟩ := List.mem_map.1 h
      exact ⟨inner, rfl⟩
  | group h hsequence =>
      obtain ⟨inner, -, rfl⟩ := List.mem_map.1 h
      unfold Group.ofNode at hsequence
      obtain ⟨content, -, rfl⟩ := Option.map_eq_some_iff.1 hsequence
      exact ⟨content.1, rfl⟩
  | inline _ htype ih =>
      obtain ⟨inner, rfl⟩ := ih
      unfold Element.ofNode at htype
      obtain ⟨content, -, rfl⟩ := Option.map_eq_some_iff.1 htype
      exact ⟨content.1, rfl⟩
  | own _ hsequence ih =>
      obtain ⟨inner, rfl⟩ := ih
      unfold ComplexType.ofNode at hsequence
      obtain ⟨content, -, rfl⟩ := Option.map_eq_some_iff.1 hsequence
      exact ⟨content.1, rfl⟩
  | extension _ hextension hsequence ih =>
      obtain ⟨inner, rfl⟩ := ih
      unfold ComplexType.ofNode at hextension
      obtain ⟨content, -, hcontent⟩ := Option.bind_eq_some_iff.1 hextension
      obtain ⟨extended, rfl⟩ := Extension.exists_of_ofContent? hcontent
      unfold Extension.ofNode at hsequence
      obtain ⟨last, -, rfl⟩ := Option.map_eq_some_iff.1 hsequence
      exact ⟨last.1, rfl⟩
  | member _ helement ih =>
      obtain ⟨inner, rfl⟩ := ih
      unfold Sequence.ofNode at helement
      obtain ⟨content, -, rfl⟩ := List.mem_map.1 helement
      exact ⟨content.1, rfl⟩

theorem Schema.ContainsSimple.isRead {node : Node} {type : SimpleType}
    (h : (Schema.ofNode node).ContainsSimple type) : ∃ inner, type = SimpleType.ofNode inner := by
  induction h with
  | top h =>
      obtain ⟨inner, -, rfl⟩ := List.mem_map.1 h
      exact ⟨inner, rfl⟩
  | inline h htype =>
      obtain ⟨inner, rfl⟩ := h.isRead
      unfold Element.ofNode at htype
      obtain ⟨content, -, rfl⟩ := Option.map_eq_some_iff.1 htype
      exact ⟨content, rfl⟩
  | items _ hlist htype ih =>
      obtain ⟨inner, rfl⟩ := ih
      unfold SimpleType.ofNode at hlist
      obtain ⟨content, -, rfl⟩ := Option.map_eq_some_iff.1 hlist
      unfold ListType.ofNode at htype
      obtain ⟨last, -, rfl⟩ := Option.map_eq_some_iff.1 htype
      exact ⟨last.1, rfl⟩

/-- **A schema that was read from a tree has no union with an empty member.** -/
theorem membersNamed_ofTree {tree : Node} {schema : Schema}
    (h : (Document.ofTree tree).schema? = some schema) : schema.MembersNamed := by
  have hread : ∃ node, schema = Schema.ofNode node := by
    unfold Document.ofTree at h
    simp only at h
    split at h
    · cases h
    · cases h
    · cases h
      exact ⟨_, rfl⟩
  obtain ⟨node, rfl⟩ := hread
  intro type union htype hunion
  obtain ⟨inner, rfl⟩ := htype.isRead
  unfold SimpleType.ofNode at hunion
  obtain ⟨content, -, rfl⟩ := Option.map_eq_some_iff.1 hunion
  exact not_mem_memberTypes_ofNode content

end SchemaBridge.Xsd
