import Mathlib.Data.List.Basic
import SchemaBridge.Proofs.Xsd.Declares
import SchemaBridge.Proofs.Xsd.Registered

/-!
# New names for types and groups

Declarations refer to each other by the names of types and groups. A renaming gives every type name
and every group name a new one (`Renaming`) and is carried through a document: to declarations, to
references, to the registry and to open names.

Names are compared and looked up, never read. So a renaming that keeps different names different
commutes with every lookup and with the guard against circles (`Registry.enterGroup?_rename`,
`Registry.enterComplexType?_rename`, `Registry.enterSimpleType?_rename`), and the members of a
renamed declaration are its renamed members (`Sequence.optionalMembers_rename`,
`ComplexType.enteredMembers_rename`).
-/

set_option autoImplicit false

namespace SchemaBridge

/-! ## Tables with new names -/

namespace Fields

variable {α β : Type} {rename : String → String}

/-- A table with new names and new values. -/
def relabel (rename : String → String) (f : α → β) (fields : Fields α) : Fields β :=
  fields.map fun entry => (rename entry.1, f entry.2)

theorem relabel_put (hrename : Function.Injective rename) (f : α → β) (fields : Fields α)
    (name : String) (value : α) :
    relabel rename f (put fields name value) =
      put (relabel rename f fields) (rename name) (f value) := by
  induction fields with
  | nil => rfl
  | cons entry rest ih =>
      obtain ⟨key, old⟩ := entry
      simp only [relabel, put, List.map_cons, hrename.eq_iff] at ih ⊢
      split
      · rfl
      · rw [List.map_cons, ih]

theorem relabel_update (hrename : Function.Injective rename) (f : α → β)
    (fields extra : Fields α) :
    relabel rename f (update fields extra) =
      update (relabel rename f fields) (relabel rename f extra) := by
  -- The table changes with each inserted entry, so it is generalized.
  induction extra generalizing fields with
  | nil => rfl
  | cons first rest ih =>
      have hrest : update fields (first :: rest) = update (put fields first.1 first.2) rest := rfl
      rw [hrest, ih, relabel_put hrename]
      rfl

theorem value?_relabel (hrename : Function.Injective rename) (f : α → β) (fields : Fields α)
    (name : String) :
    value? (relabel rename f fields) (rename name) = (value? fields name).map f := by
  induction fields with
  | nil => rfl
  | cons entry rest ih =>
      obtain ⟨key, old⟩ := entry
      simp only [relabel, List.map_cons, value?, hrename.eq_iff] at ih ⊢
      split
      · rfl
      · exact ih

end Fields

namespace Xsd

/-- New names for types and for groups. Different names stay different, and the empty text, which
is no name, stays as it is. -/
structure Renaming where
  typeName : String → String
  groupName : String → String
  typeName_injective : Function.Injective typeName
  groupName_injective : Function.Injective groupName
  typeName_empty : typeName "" = ""
  groupName_empty : groupName "" = ""

namespace Renaming

/-- The new names of one kind of declarations. -/
def ofKind (r : Renaming) : DeclarationKind → String → String
  | .complexType | .simpleType => r.typeName
  | .group => r.groupName

/-- Every name stays as it is. -/
def identity : Renaming :=
  ⟨id, id, Function.injective_id, Function.injective_id, rfl, rfl⟩

theorem ofKind_injective (r : Renaming) (kind : DeclarationKind) :
    Function.Injective (r.ofKind kind) := by
  cases kind
  · exact r.typeName_injective
  · exact r.typeName_injective
  · exact r.groupName_injective

theorem nonempty?_map {rename : String → String} (hrename : Function.Injective rename)
    (hempty : rename "" = "") (text? : Option String) :
    nonempty? (text?.map rename) = (nonempty? text?).map rename := by
  have hne : ∀ text, rename text = "" ↔ text = "" := fun text =>
    ⟨fun h => hrename (h.trans hempty.symm), fun h => h ▸ hempty⟩
  cases text? with
  | none => rfl
  | some text =>
      simp only [nonempty?, Option.map_some, Option.filter, ne_eq, hne]
      split <;> rfl

theorem nonempty?_typeName (r : Renaming) (text? : Option String) :
    nonempty? (text?.map r.typeName) = (nonempty? text?).map r.typeName :=
  nonempty?_map r.typeName_injective r.typeName_empty text?

theorem nonempty?_groupName (r : Renaming) (text? : Option String) :
    nonempty? (text?.map r.groupName) = (nonempty? text?).map r.groupName :=
  nonempty?_map r.groupName_injective r.groupName_empty text?

end Renaming

/-! ## Declarations -/

/-- A restriction of the renamed base. -/
def Restriction.rename (r : Renaming) (restriction : Restriction) : Restriction :=
  { restriction with base? := restriction.base?.map r.typeName }

/-- A union of the renamed members. -/
def Union.rename (r : Renaming) (union : Union) : Union :=
  { union with memberTypes := union.memberTypes.map r.typeName }

mutual

/-- A simple type with all type names in it renamed. -/
def SimpleType.rename (r : Renaming) : SimpleType → SimpleType
  | ⟨name?, restriction?, union?, list?⟩ =>
      ⟨name?.map r.typeName, restriction?.map (Restriction.rename r),
        union?.map (Union.rename r), ListType.optionalRename r list?⟩

/-- A list with all type names in it renamed. -/
def ListType.rename (r : Renaming) : ListType → ListType
  | ⟨itemType?, simpleType?⟩ =>
      ⟨itemType?.map r.typeName, SimpleType.optionalRename r simpleType?⟩

/-- A simple type that may be missing, renamed. -/
def SimpleType.optionalRename (r : Renaming) : Option SimpleType → Option SimpleType
  | none => none
  | some type => some (type.rename r)

/-- A list that may be missing, renamed. -/
def ListType.optionalRename (r : Renaming) : Option ListType → Option ListType
  | none => none
  | some list => some (list.rename r)

end

/-- An attribute with all type names in it renamed. -/
def Attribute.rename (r : Renaming) (a : Attribute) : Attribute :=
  { a with
    typeName? := a.typeName?.map r.typeName
    simpleType? := a.simpleType?.map (SimpleType.rename r) }

mutual

/-- An element with all names of types and groups in it renamed; its own name stays. -/
def Element.rename (r : Renaming) : Element → Element
  | ⟨name?, typeName?, occurs, use?, complexType?, simpleType?⟩ =>
      ⟨name?, typeName?.map r.typeName, occurs, use?, ComplexType.optionalRename r complexType?,
        simpleType?.map (SimpleType.rename r)⟩

/-- A complex type with all names in it renamed. -/
def ComplexType.rename (r : Renaming) : ComplexType → ComplexType
  | ⟨name?, sequence?, simpleContent?, complexContent?⟩ =>
      ⟨name?.map r.typeName, Sequence.optionalRename r sequence?,
        Extension.optionalRename r simpleContent?, Extension.optionalRename r complexContent?⟩

/-- An extension with all names in it renamed. -/
def Extension.rename (r : Renaming) : Extension → Extension
  | ⟨base?, sequence?, attributes⟩ =>
      ⟨base?.map r.typeName, Sequence.optionalRename r sequence?,
        attributes.map (Attribute.rename r)⟩

/-- A sequence with all names in it renamed. -/
def Sequence.rename (r : Renaming) : Sequence → Sequence
  | ⟨elements, groups⟩ => ⟨elementsRename r elements, groupsRename r groups⟩

/-- A group, or a reference to one, with all names in it renamed. -/
def Group.rename (r : Renaming) : Group → Group
  | ⟨name?, ref?, occurs, sequence?⟩ =>
      ⟨name?.map r.groupName, ref?.map r.groupName, occurs, Sequence.optionalRename r sequence?⟩

/-- A complex type that may be missing, renamed. -/
def ComplexType.optionalRename (r : Renaming) : Option ComplexType → Option ComplexType
  | none => none
  | some type => some (type.rename r)

/-- An extension that may be missing, renamed. -/
def Extension.optionalRename (r : Renaming) : Option Extension → Option Extension
  | none => none
  | some extension => some (extension.rename r)

/-- A sequence that may be missing, renamed. -/
def Sequence.optionalRename (r : Renaming) : Option Sequence → Option Sequence
  | none => none
  | some sequence => some (sequence.rename r)

/-- Several elements, renamed. -/
def elementsRename (r : Renaming) : List Element → List Element
  | [] => []
  | element :: rest => element.rename r :: elementsRename r rest

/-- Several groups, renamed. -/
def groupsRename (r : Renaming) : List Group → List Group
  | [] => []
  | group :: rest => group.rename r :: groupsRename r rest

end

/-- A schema with all names of types and groups in it renamed. -/
def Schema.rename (r : Renaming) (schema : Schema) : Schema where
  elements := schema.elements.map (Element.rename r)
  complexTypes := schema.complexTypes.map (ComplexType.rename r)
  simpleTypes := schema.simpleTypes.map (SimpleType.rename r)
  groups := schema.groups.map (Group.rename r)

/-- A document with all names of types and groups in it renamed. -/
def Document.rename (r : Renaming) (document : Document) : Document where
  schema? := document.schema?.map (Schema.rename r)

/-! ## The parts of renamed declarations -/

section Parts

variable (r : Renaming)

theorem SimpleType.optionalRename_eq (type? : Option SimpleType) :
    SimpleType.optionalRename r type? = type?.map (SimpleType.rename r) := by
  cases type? <;> rfl

theorem ListType.optionalRename_eq (list? : Option ListType) :
    ListType.optionalRename r list? = list?.map (ListType.rename r) := by
  cases list? <;> rfl

theorem ComplexType.optionalRename_eq (type? : Option ComplexType) :
    ComplexType.optionalRename r type? = type?.map (ComplexType.rename r) := by
  cases type? <;> rfl

theorem Extension.optionalRename_eq (extension? : Option Extension) :
    Extension.optionalRename r extension? = extension?.map (Extension.rename r) := by
  cases extension? <;> rfl

theorem Sequence.optionalRename_eq (sequence? : Option Sequence) :
    Sequence.optionalRename r sequence? = sequence?.map (Sequence.rename r) := by
  cases sequence? <;> rfl

theorem elementsRename_eq (elements : List Element) :
    elementsRename r elements = elements.map (Element.rename r) := by
  induction elements with
  | nil => rfl
  | cons element rest ih => rw [elementsRename, ih, List.map_cons]

theorem groupsRename_eq (groups : List Group) :
    groupsRename r groups = groups.map (Group.rename r) := by
  induction groups with
  | nil => rfl
  | cons group rest ih => rw [groupsRename, ih, List.map_cons]

@[simp] theorem SimpleType.rename_name? (type : SimpleType) :
    (type.rename r).name? = type.name?.map r.typeName := by
  cases type
  rfl

@[simp] theorem SimpleType.rename_restriction? (type : SimpleType) :
    (type.rename r).restriction? = type.restriction?.map (Restriction.rename r) := by
  cases type
  rfl

@[simp] theorem SimpleType.rename_union? (type : SimpleType) :
    (type.rename r).union? = type.union?.map (Union.rename r) := by
  cases type
  rfl

@[simp] theorem SimpleType.rename_list? (type : SimpleType) :
    (type.rename r).list? = type.list?.map (ListType.rename r) := by
  cases type
  exact ListType.optionalRename_eq r _

@[simp] theorem ListType.rename_itemType? (list : ListType) :
    (list.rename r).itemType? = list.itemType?.map r.typeName := by
  cases list
  rfl

@[simp] theorem ListType.rename_simpleType? (list : ListType) :
    (list.rename r).simpleType? = list.simpleType?.map (SimpleType.rename r) := by
  cases list
  exact SimpleType.optionalRename_eq r _

@[simp] theorem Element.rename_name? (element : Element) :
    (element.rename r).name? = element.name? := by
  cases element
  rfl

@[simp] theorem Element.rename_typeName? (element : Element) :
    (element.rename r).typeName? = element.typeName?.map r.typeName := by
  cases element
  rfl

@[simp] theorem Element.rename_occurs (element : Element) :
    (element.rename r).occurs = element.occurs := by
  cases element
  rfl

@[simp] theorem Element.rename_isRequired (element : Element) :
    (element.rename r).isRequired = element.isRequired := by
  cases element
  rfl

@[simp] theorem Element.rename_complexType? (element : Element) :
    (element.rename r).complexType? = element.complexType?.map (ComplexType.rename r) := by
  cases element
  exact ComplexType.optionalRename_eq r _

@[simp] theorem Element.rename_simpleType? (element : Element) :
    (element.rename r).simpleType? = element.simpleType?.map (SimpleType.rename r) := by
  cases element
  rfl

@[simp] theorem ComplexType.rename_name? (type : ComplexType) :
    (type.rename r).name? = type.name?.map r.typeName := by
  cases type
  rfl

@[simp] theorem ComplexType.rename_sequence? (type : ComplexType) :
    (type.rename r).sequence? = type.sequence?.map (Sequence.rename r) := by
  cases type
  exact Sequence.optionalRename_eq r _

@[simp] theorem ComplexType.rename_simpleContent? (type : ComplexType) :
    (type.rename r).simpleContent? = type.simpleContent?.map (Extension.rename r) := by
  cases type
  exact Extension.optionalRename_eq r _

@[simp] theorem ComplexType.rename_complexContent? (type : ComplexType) :
    (type.rename r).complexContent? = type.complexContent?.map (Extension.rename r) := by
  cases type
  exact Extension.optionalRename_eq r _

@[simp] theorem Extension.rename_base? (extension : Extension) :
    (extension.rename r).base? = extension.base?.map r.typeName := by
  cases extension
  rfl

@[simp] theorem Extension.rename_sequence? (extension : Extension) :
    (extension.rename r).sequence? = extension.sequence?.map (Sequence.rename r) := by
  cases extension
  exact Sequence.optionalRename_eq r _

@[simp] theorem Extension.rename_attributes (extension : Extension) :
    (extension.rename r).attributes = extension.attributes.map (Attribute.rename r) := by
  cases extension
  rfl

@[simp] theorem Sequence.rename_elements (sequence : Sequence) :
    (sequence.rename r).elements = sequence.elements.map (Element.rename r) := by
  cases sequence
  exact elementsRename_eq r _

@[simp] theorem Sequence.rename_groups (sequence : Sequence) :
    (sequence.rename r).groups = sequence.groups.map (Group.rename r) := by
  cases sequence
  exact groupsRename_eq r _

@[simp] theorem Group.rename_name? (group : Group) :
    (group.rename r).name? = group.name?.map r.groupName := by
  cases group
  rfl

@[simp] theorem Group.rename_ref? (group : Group) :
    (group.rename r).ref? = group.ref?.map r.groupName := by
  cases group
  rfl

@[simp] theorem Group.rename_occurs (group : Group) :
    (group.rename r).occurs = group.occurs := by
  cases group
  rfl

@[simp] theorem Group.rename_sequence? (group : Group) :
    (group.rename r).sequence? = group.sequence?.map (Sequence.rename r) := by
  cases group
  exact Sequence.optionalRename_eq r _

end Parts

/-! ## The renaming that changes nothing -/

theorem Restriction.rename_identity (restriction : Restriction) :
    restriction.rename .identity = restriction := by
  cases restriction
  simp [Restriction.rename, Renaming.identity]

theorem Union.rename_identity (union : Union) : union.rename .identity = union := by
  cases union
  simp [Union.rename, Renaming.identity]

theorem map_eq_self {α : Type} {f : α → α} {a? : Option α} (h : ∀ a, f a = a) :
    a?.map f = a? := by
  rw [funext h, Option.map_id']

theorem Renaming.map_identity_typeName (name? : Option String) :
    name?.map Renaming.identity.typeName = name? :=
  map_eq_self fun _ => rfl

theorem Renaming.map_identity_groupName (name? : Option String) :
    name?.map Renaming.identity.groupName = name? :=
  map_eq_self fun _ => rfl

mutual

theorem SimpleType.rename_identity (type : SimpleType) : type.rename .identity = type := by
  obtain ⟨name?, restriction?, union?, list?⟩ := type
  rw [SimpleType.rename, Renaming.map_identity_typeName, map_eq_self Restriction.rename_identity,
    map_eq_self Union.rename_identity, ListType.optionalRename_identity]

theorem ListType.rename_identity (list : ListType) : list.rename .identity = list := by
  obtain ⟨itemType?, simpleType?⟩ := list
  rw [ListType.rename, Renaming.map_identity_typeName, SimpleType.optionalRename_identity]

theorem SimpleType.optionalRename_identity (type? : Option SimpleType) :
    SimpleType.optionalRename .identity type? = type? := by
  cases type? with
  | none => rfl
  | some type => rw [SimpleType.optionalRename, type.rename_identity]

theorem ListType.optionalRename_identity (list? : Option ListType) :
    ListType.optionalRename .identity list? = list? := by
  cases list? with
  | none => rfl
  | some list => rw [ListType.optionalRename, list.rename_identity]

end

theorem Attribute.rename_identity (a : Attribute) : a.rename .identity = a := by
  rw [Attribute.rename, Renaming.map_identity_typeName, map_eq_self SimpleType.rename_identity]

mutual

theorem Element.rename_identity (element : Element) : element.rename .identity = element := by
  obtain ⟨name?, typeName?, occurs, use?, complexType?, simpleType?⟩ := element
  rw [Element.rename, Renaming.map_identity_typeName, map_eq_self SimpleType.rename_identity,
    ComplexType.optionalRename_identity]

theorem ComplexType.rename_identity (type : ComplexType) : type.rename .identity = type := by
  obtain ⟨name?, sequence?, simpleContent?, complexContent?⟩ := type
  rw [ComplexType.rename, Renaming.map_identity_typeName, Sequence.optionalRename_identity,
    Extension.optionalRename_identity simpleContent?,
    Extension.optionalRename_identity complexContent?]

theorem Extension.rename_identity (extension : Extension) :
    extension.rename .identity = extension := by
  obtain ⟨base?, sequence?, attributes⟩ := extension
  rw [Extension.rename, Renaming.map_identity_typeName, Sequence.optionalRename_identity,
    funext Attribute.rename_identity, List.map_id']

theorem Sequence.rename_identity (sequence : Sequence) : sequence.rename .identity = sequence := by
  obtain ⟨elements, groups⟩ := sequence
  rw [Sequence.rename, elementsRename_identity, groupsRename_identity]

theorem Group.rename_identity (group : Group) : group.rename .identity = group := by
  obtain ⟨name?, ref?, occurs, sequence?⟩ := group
  rw [Group.rename, Renaming.map_identity_groupName, Renaming.map_identity_groupName,
    Sequence.optionalRename_identity]

theorem ComplexType.optionalRename_identity (type? : Option ComplexType) :
    ComplexType.optionalRename .identity type? = type? := by
  cases type? with
  | none => rfl
  | some type => rw [ComplexType.optionalRename, type.rename_identity]

theorem Extension.optionalRename_identity (extension? : Option Extension) :
    Extension.optionalRename .identity extension? = extension? := by
  cases extension? with
  | none => rfl
  | some extension => rw [Extension.optionalRename, extension.rename_identity]

theorem Sequence.optionalRename_identity (sequence? : Option Sequence) :
    Sequence.optionalRename .identity sequence? = sequence? := by
  cases sequence? with
  | none => rfl
  | some sequence => rw [Sequence.optionalRename, sequence.rename_identity]

theorem elementsRename_identity (elements : List Element) :
    elementsRename .identity elements = elements := by
  cases elements with
  | nil => rfl
  | cons element rest =>
      rw [elementsRename, element.rename_identity, elementsRename_identity rest]

theorem groupsRename_identity (groups : List Group) : groupsRename .identity groups = groups := by
  cases groups with
  | nil => rfl
  | cons group rest => rw [groupsRename, group.rename_identity, groupsRename_identity rest]

end

theorem Schema.rename_identity (schema : Schema) : schema.rename .identity = schema := by
  rw [Schema.rename, funext Element.rename_identity, funext ComplexType.rename_identity,
    funext SimpleType.rename_identity, funext Group.rename_identity, List.map_id', List.map_id',
    List.map_id', List.map_id']

theorem Document.rename_identity (document : Document) : document.rename .identity = document := by
  rw [Document.rename, map_eq_self Schema.rename_identity]

/-! ## Open names -/

namespace OpenNames

variable (r : Renaming)

/-- The open names, renamed. -/
def rename (names : OpenNames) : OpenNames where
  complexTypes := names.complexTypes.map r.typeName
  simpleTypes := names.simpleTypes.map r.typeName
  groups := names.groups.map r.groupName

theorem ofKind_rename (names : OpenNames) (kind : DeclarationKind) :
    (names.rename r).ofKind kind = (names.ofKind kind).map (r.ofKind kind) := by
  cases kind <;> rfl

theorem isOpen_rename (names : OpenNames) (kind : DeclarationKind) (name : String) :
    (names.rename r).isOpen kind (r.ofKind kind name) = names.isOpen kind name := by
  rw [isOpen, isOpen, ofKind_rename, Bool.eq_iff_iff, List.contains_iff_mem, List.contains_iff_mem]
  exact List.mem_map_of_injective (r.ofKind_injective kind)

theorem push_rename (names : OpenNames) (kind : DeclarationKind) (name : String) :
    (names.rename r).push kind (r.ofKind kind name) = (names.push kind name).rename r := by
  cases kind <;> rfl

/-- The guard against circles compares names and so does not see what they are. -/
theorem enter_rename (names : OpenNames) (kind : DeclarationKind) (name? : Option String) :
    (names.rename r).enter kind (name?.map (r.ofKind kind)) =
      (names.enter kind name?).map (rename r) := by
  cases name? with
  | none => rfl
  | some name =>
      simp only [Option.map_some, enter, isOpen_rename, push_rename]
      split <;> rfl

theorem enter_typeName (names : OpenNames) (name? : Option String) :
    (names.rename r).enter .complexType (name?.map r.typeName) =
      (names.enter .complexType name?).map (rename r) :=
  enter_rename r names .complexType name?

end OpenNames

/-! ## The registry -/

/-- The table of renamed declarations is the renamed table. -/
theorem indexByName_map {α : Type} {name? : α → Option String} {f : α → α}
    {rename : String → String} (hrename : Function.Injective rename) (hempty : rename "" = "")
    (hname : ∀ d, name? (f d) = (name? d).map rename) (declarations : List α) :
    indexByName name? (declarations.map f) =
      Fields.relabel rename f (indexByName name? declarations) := by
  rw [indexByName, indexByName, Fields.ofEntries, Fields.ofEntries, Fields.relabel_update hrename,
    Fields.relabel, Fields.relabel, List.filterMap_map, List.map_filterMap]
  congr 2
  funext d
  rw [Function.comp_apply, hname, Renaming.nonempty?_map hrename hempty, Option.map_map,
    Option.map_map]
  rfl

namespace Registry

variable (r : Renaming)

/-- The registry of renamed declarations under their new names. -/
def rename (registry : Registry) : Registry where
  complexTypes := registry.complexTypes.relabel r.typeName (ComplexType.rename r)
  simpleTypes := registry.simpleTypes.relabel r.typeName (SimpleType.rename r)
  groups := registry.groups.relabel r.groupName (Group.rename r)

theorem ofSchema_rename (schema : Schema) :
    ofSchema (schema.rename r) = (ofSchema schema).rename r := by
  simp only [ofSchema, Schema.rename, rename,
    indexByName_map r.typeName_injective r.typeName_empty (ComplexType.rename_name? r),
    indexByName_map r.typeName_injective r.typeName_empty (SimpleType.rename_name? r),
    indexByName_map r.groupName_injective r.groupName_empty (Group.rename_name? r)]

theorem ofDocument_rename (document : Document) :
    ofDocument (document.rename r) = (ofDocument document).rename r := by
  obtain ⟨schema?⟩ := document
  cases schema? with
  | none => rfl
  | some schema => exact ofSchema_rename r schema

/-- A declaration is entered by its new name as it is by its old one. -/
theorem map_enter_rename {α : Type} (f : α → α) (names : OpenNames) (kind : DeclarationKind)
    (name : String) (a : α) :
    ((names.rename r).enter kind (some (r.ofKind kind name))).map (fun inner => (inner, f a)) =
      ((names.enter kind (some name)).map fun inner => (inner, a)).map fun entered =>
        (entered.1.rename r, f entered.2) := by
  have henter := OpenNames.enter_rename r names kind (some name)
  rw [Option.map_some] at henter
  rw [henter, Option.map_map, Option.map_map]
  rfl

theorem enterGroup?_rename (registry : Registry) (names : OpenNames) (ref? : Option String) :
    (registry.rename r).enterGroup? (names.rename r) (ref?.map r.groupName) =
      (registry.enterGroup? names ref?).map fun entered =>
        (entered.1.rename r, entered.2.rename r) := by
  unfold enterGroup?
  rw [r.nonempty?_groupName]
  cases nonempty? ref? with
  | none => rfl
  | some name =>
      simp only [Option.map_some, rename, Fields.value?_relabel r.groupName_injective]
      cases registry.groups.value? name with
      | none => rfl
      | some group =>
          simp only [Option.map_some, Option.bind_some, Group.rename_sequence?]
          cases group.sequence? with
          | none => rfl
          | some content => exact map_enter_rename r (Sequence.rename r) names .group name content

theorem enterComplexType?_rename (registry : Registry) (names : OpenNames)
    (name? : Option String) :
    (registry.rename r).enterComplexType? (names.rename r) (name?.map r.typeName) =
      (registry.enterComplexType? names name?).map fun entered =>
        (entered.1.rename r, entered.2.rename r) := by
  unfold enterComplexType?
  rw [r.nonempty?_typeName]
  cases nonempty? name? with
  | none => rfl
  | some name =>
      simp only [Option.map_some, rename, Fields.value?_relabel r.typeName_injective]
      cases registry.complexTypes.value? name with
      | none => rfl
      | some type => exact map_enter_rename r (ComplexType.rename r) names .complexType name type

theorem enterSimpleType?_rename (registry : Registry) (names : OpenNames)
    (name? : Option String) :
    (registry.rename r).enterSimpleType? (names.rename r) (name?.map r.typeName) =
      (registry.enterSimpleType? names name?).map fun entered =>
        (entered.1.rename r, entered.2.rename r) := by
  unfold enterSimpleType?
  rw [r.nonempty?_typeName]
  cases nonempty? name? with
  | none => rfl
  | some name =>
      simp only [Option.map_some, rename, Fields.value?_relabel r.typeName_injective]
      cases registry.simpleTypes.value? name with
      | none => rfl
      | some type => exact map_enter_rename r (SimpleType.rename r) names .simpleType name type

end Registry

/-- With no new names, the registry is the same. -/
theorem Registry.rename_identity (registry : Registry) : registry.rename .identity = registry := by
  have hrelabel : ∀ {α : Type} (f : α → α), (∀ a, f a = a) → ∀ fields : Fields α,
      fields.relabel id f = fields := by
    intro α f hf fields
    rw [Fields.relabel, funext hf]
    exact List.map_id _
  obtain ⟨complexTypes, simpleTypes, groups⟩ := registry
  simp only [rename, Renaming.identity, Registry.mk.injEq]
  exact ⟨hrelabel _ ComplexType.rename_identity _, hrelabel _ SimpleType.rename_identity _,
    hrelabel _ Group.rename_identity _⟩

theorem OpenNames.rename_identity (names : OpenNames) : names.rename .identity = names := by
  cases names
  simp [OpenNames.rename, Renaming.identity]

/-! ## Members -/

/-- A member with its declaration and the names open there renamed. -/
def Member.rename (r : Renaming) (m : Member) : Member :=
  { m with element := m.element.rename r, names := m.names.rename r }

theorem Member.rename_identity (m : Member) : m.rename .identity = m := by
  rw [Member.rename, Element.rename_identity, OpenNames.rename_identity]

section Members

variable (r : Renaming) (registry : Registry)

theorem Sequence.membersBelow_rename (optional repeats : Bool) (names : OpenNames)
    (sequence : Sequence) :
    (sequence.rename r).membersBelow (registry.rename r) optional repeats (names.rename r) =
      (sequence.membersBelow registry optional repeats names).map (Member.rename r) := by
  -- The induction is on the flattening: it goes down where a reference enters a group.
  induction optional, repeats, names, sequence using Sequence.membersBelow.induct registry with
  | case1 optional repeats names sequence ih =>
      rw [Sequence.membersBelow_eq, Sequence.membersBelow_eq, Sequence.rename_elements,
        Sequence.rename_groups, List.map_append, List.map_map, List.map_map, List.flatMap_map,
        List.map_flatMap]
      congr 1
      congr 1
      funext ref
      rw [Group.rename_ref?, Group.rename_occurs, Registry.enterGroup?_rename]
      cases henter : registry.enterGroup? names ref.ref? with
      | none => rfl
      | some entered => exact ih ref entered.1 entered.2 henter

theorem Sequence.optionalMembers_rename (names : OpenNames) (sequence? : Option Sequence) :
    Sequence.optionalMembers (registry.rename r) (names.rename r)
        (sequence?.map (Sequence.rename r)) =
      (Sequence.optionalMembers registry names sequence?).map (Member.rename r) := by
  cases sequence? with
  | none => rfl
  | some sequence => exact Sequence.membersBelow_rename r registry false false names sequence

theorem ComplexType.enteredMembers_rename (names : OpenNames) (type : ComplexType) :
    (type.rename r).enteredMembers (registry.rename r) (names.rename r) =
      (type.enteredMembers registry names).map (Member.rename r) := by
  -- The induction is on the chain of bases.
  induction names, type using ComplexType.enteredMembers.induct registry with
  | case1 names type ih =>
      rw [ComplexType.enteredMembers_eq, ComplexType.enteredMembers_eq, ComplexType.rename_sequence?,
        ComplexType.rename_complexContent?, List.map_append, Sequence.optionalMembers_rename]
      congr 1
      cases type.complexContent? with
      | none => rfl
      | some extension =>
          simp only [Option.map_some, Extension.rename_sequence?, Extension.rename_base?,
            Sequence.optionalMembers_rename, Registry.enterComplexType?_rename, List.map_append]
          congr 1
          cases henter : registry.enterComplexType? names extension.base? with
          | none => rfl
          | some entered => exact ih extension entered.1 entered.2 henter

theorem ComplexType.members_rename (names : OpenNames) (type : ComplexType) :
    (type.rename r).members (registry.rename r) (names.rename r) =
      (type.members registry names).map (Member.rename r) := by
  unfold ComplexType.members
  rw [ComplexType.rename_name?, OpenNames.enter_typeName]
  cases names.enter .complexType type.name? with
  | none => rfl
  | some inner => exact type.enteredMembers_rename r registry inner

theorem Element.contentMembers_rename (names : OpenNames) (element : Element) :
    (element.rename r).contentMembers (registry.rename r) (names.rename r) =
      (element.contentMembers registry names).map (Member.rename r) := by
  unfold Element.contentMembers
  rw [Element.rename_complexType?, Element.rename_typeName?, Registry.enterComplexType?_rename]
  cases element.complexType? with
  | some type => exact type.members_rename r registry names
  | none =>
      cases registry.enterComplexType? names element.typeName? with
      | none => rfl
      | some entered => exact entered.2.enteredMembers_rename r registry entered.1

end Members

end Xsd

end SchemaBridge
