import SchemaBridge.Proofs.JsonSchema.Leaves
import SchemaBridge.Proofs.Xsd.Regular

/-!
# Which declarations a converted schema writes

An element of a schema document has below it what its type declares, with every group written out
where it is referred to and every named type replaced by a reference. `Conversion.Leads` says so of
declarations: an element leads to the elements of its own type, or on to the definition of a type
that it names, of a base that it extends, or of the items of a list (`Conversion.TypeLeads`).

Each definition is written with no names open but its own. So the guard against circles starts anew
at each definition (`OpenNames.Admits`): along a walk a group may come back, as long as it does not
come back within one definition. For a walk that collects paths the guard never starts anew
(`OpenNames.Fresh`), which is stricter (`OpenNames.admits_of_fresh`).
-/

set_option autoImplicit false

namespace SchemaBridge

open Xsd JsonSchema

namespace Xsd

/-! ## The guard of a definition -/

namespace OpenNames

/-- The names that stay open where a declaration is entered: all of them for a group, none for a
definition. -/
def kept (names : OpenNames) (kind : DeclarationKind) : OpenNames :=
  if kind = .group then names else {}

/-- The names open after entering declarations one after another, when definitions start anew. -/
def reopened (names : OpenNames) : List Entry → OpenNames
  | [] => names
  | entry :: rest => ((names.kept entry.1).push entry.1 entry.2).reopened rest

/-- The declarations can be entered one after another, when definitions start anew: no group is
entered again within one definition. -/
def Admits (names : OpenNames) : List Entry → Prop
  | [] => True
  | entry :: rest =>
      (names.kept entry.1).isOpen entry.1 entry.2 = false ∧
        ((names.kept entry.1).push entry.1 entry.2).Admits rest

theorem reopened_append (names : OpenNames) (first second : List Entry) :
    names.reopened (first ++ second) = (names.reopened first).reopened second := by
  induction first generalizing names with
  | nil => rfl
  | cons entry rest ih => exact ih _

theorem admits_append (names : OpenNames) (first second : List Entry) :
    names.Admits (first ++ second) ↔
      names.Admits first ∧ (names.reopened first).Admits second := by
  induction first generalizing names with
  | nil => simp [Admits, reopened]
  | cons entry rest ih =>
      simp only [List.cons_append, Admits, reopened, ih, and_assoc]

theorem isOpen_empty (kind : DeclarationKind) (name : String) :
    ({} : OpenNames).isOpen kind name = false := by
  cases kind <;> rfl

/-- A definition starts anew. -/
theorem reopened_definition (names : OpenNames) {kind : DeclarationKind} (hkind : kind ≠ .group)
    (name : String) (rest : List Entry) :
    names.reopened ((kind, name) :: rest) = (({} : OpenNames).push kind name).reopened rest := by
  rw [reopened, kept, if_neg hkind]

theorem admits_definition (names : OpenNames) {kind : DeclarationKind} (hkind : kind ≠ .group)
    (name : String) (rest : List Entry) :
    names.Admits ((kind, name) :: rest) ↔ (({} : OpenNames).push kind name).Admits rest := by
  rw [Admits, kept, if_neg hkind, isOpen_empty]
  exact ⟨And.right, fun h => ⟨rfl, h⟩⟩

/-- Within one definition the two guards agree. -/
theorem reopened_groups (names : OpenNames) {entries : List Entry}
    (h : ∀ entry ∈ entries, entry.1 = .group) :
    names.reopened entries = names.enterAll entries := by
  induction entries generalizing names with
  | nil => rfl
  | cons entry rest ih =>
      rw [List.forall_mem_cons] at h
      rw [reopened, kept, if_pos h.1, enterAll_cons, ih _ h.2]

theorem admits_groups (names : OpenNames) {entries : List Entry}
    (h : ∀ entry ∈ entries, entry.1 = .group) : names.Admits entries ↔ names.Fresh entries := by
  induction entries generalizing names with
  | nil => simp [Admits]
  | cons entry rest ih =>
      rw [List.forall_mem_cons] at h
      rw [Admits, kept, if_pos h.1, fresh_cons, ih _ h.2]

/-- What can be entered with more names open can be entered when definitions start anew. -/
theorem admits_of_fresh {names fewer : OpenNames} {entries : List Entry}
    (h : names.Fresh entries)
    (hfewer : ∀ kind name, fewer.isOpen kind name = true → names.isOpen kind name = true) :
    fewer.Admits entries := by
  induction entries generalizing names fewer with
  | nil => trivial
  | cons entry rest ih =>
      rw [fresh_cons] at h
      -- What a definition drops is not open, so the fewer names stay fewer.
      have hkept : ∀ kind name, (fewer.kept entry.1).isOpen kind name = true →
          names.isOpen kind name = true := by
        intro kind name hopen
        unfold kept at hopen
        split at hopen
        · exact hfewer kind name hopen
        · rw [isOpen_empty] at hopen
          cases hopen
      refine ⟨?_, ih h.2 fun kind name hopen => ?_⟩
      · cases hopen : (fewer.kept entry.1).isOpen entry.1 entry.2 with
        | false => rfl
        | true => exact absurd (hkept _ _ hopen) (by simp [h.1])
      · rw [Registry.isOpen_push, Bool.or_eq_true] at hopen ⊢
        exact hopen.imp_left (hkept kind name)

end OpenNames

/-- The names of the definitions among entries, in order. -/
def definitionsOf (entries : List Entry) : List String :=
  (entries.filter fun entry => entry.1 ≠ .group).map Prod.snd

theorem definitionsOf_append (first second : List Entry) :
    definitionsOf (first ++ second) = definitionsOf first ++ definitionsOf second := by
  simp only [definitionsOf, List.filter_append, List.map_append]

theorem definitionsOf_groups {entries : List Entry} (h : ∀ entry ∈ entries, entry.1 = .group) :
    definitionsOf entries = [] := by
  rw [definitionsOf, List.filter_eq_nil_iff.2 (by simpa using h), List.map_nil]

theorem definitionsOf_definition {kind : DeclarationKind} (hkind : kind ≠ .group) (name : String)
    (rest : List Entry) : definitionsOf ((kind, name) :: rest) = name :: definitionsOf rest := by
  simp [definitionsOf, hkind]

/-- A sequence declares elements below groups only. -/
theorem Sequence.Declares.eq_group {registry : Registry} {sequence : Sequence}
    {entries : List Entry} {repeats : Bool} {element : Element}
    (h : sequence.Declares registry entries repeats element) :
    ∀ entry ∈ entries, entry.1 = .group := by
  induction h with
  | own => simp
  | group _ _ _ _ ih => simpa using ih

/-- The name belongs to an attribute and not to an element. -/
def IsMarked (name : String) : Prop := attributeMark.toList <+: name.toList

instance (name : String) : Decidable (IsMarked name) :=
  inferInstanceAs (Decidable (attributeMark.toList <+: name.toList))

/-- The key of an attribute is marked. -/
theorem isMarked_append (text : String) : IsMarked (attributeMark ++ text) := by
  rw [IsMarked, String.toList_append]
  exact List.prefix_append ..

theorem ne_append_of_not_isMarked {name : String} (h : ¬ IsMarked name) (text : String) :
    name ≠ attributeMark ++ text := by
  rintro rfl
  exact h (isMarked_append text)

theorem attributeMark_append_inj {name other : String} :
    attributeMark ++ name = attributeMark ++ other ↔ name = other := by
  rw [← String.toList_inj, String.toList_append, String.toList_append, List.append_cancel_left_eq,
    String.toList_inj]

/-- The name can only belong to an element: neither to an attribute nor to text. -/
def IsElementKey (name : String) : Prop := ¬ IsMarked name ∧ name ≠ "#text"

instance (name : String) : Decidable (IsElementKey name) :=
  inferInstanceAs (Decidable (¬ IsMarked name ∧ name ≠ "#text"))

end Xsd

namespace Conversion

variable (c : Conversion) (schema : Schema)

/-! ## Where declarations lead -/

/-- The named simple types that have a schema. -/
def writtenSimpleTypes : Fields SimpleType :=
  indexByName SimpleType.name?
    (schema.simpleTypes.filter fun type => (c.simpleTypeSchema? type).isSome)

/-- A definition leads to the elements of its own object, to those of the base it extends, and, when
it is a list, to those of the type of its items. The entries are the definitions and groups on the
way, its own first. -/
inductive TypeLeads : String → List Entry → Bool → Element → Prop where
  | own {name : String} {type : ComplexType} {sequence : Sequence} {groups : List Entry}
      {repeats : Bool} {element : Element}
      (htype : c.registry.complexTypes.value? name = some type)
      (hsequence : (contentShape type).sequence? = some sequence)
      (h : sequence.Declares c.registry groups repeats element) :
      TypeLeads name ((.complexType, name) :: groups) repeats element
  | base {name base : String} {type : ComplexType} {extension : Extension} {entries : List Entry}
      {repeats : Bool} {element : Element}
      (htype : c.registry.complexTypes.value? name = some type)
      (hshape : contentShape type = .extended base extension)
      (hbase : c.typeMap.isPrimitive base = false) (h : TypeLeads base entries repeats element) :
      TypeLeads name ((.complexType, name) :: entries) repeats element
  | items {name itemName : String} {type : SimpleType} {entries : List Entry} {repeats : Bool}
      {element : Element} (hcomplex : c.registry.complexTypes.value? name = none)
      (htype : (c.writtenSimpleTypes schema).value? name = some type)
      (hitem : type.itemName? = some itemName) (hprimitive : c.typeMap.isPrimitive itemName = false)
      (h : TypeLeads itemName entries repeats element) :
      TypeLeads name ((.simpleType, name) :: entries) repeats element

/-- An element leads to the elements of its inline type, and to those of a definition: that of the
base of its inline type, of the type it names, or of the items of its inline list. -/
inductive Leads (outer : Element) : List Entry → Bool → Element → Prop where
  | own {type : ComplexType} {sequence : Sequence} {groups : List Entry} {repeats : Bool}
      {element : Element} (htype : outer.complexType? = some type)
      (hsequence : (contentShape type).sequence? = some sequence)
      (h : sequence.Declares c.registry groups repeats element) :
      Leads outer groups repeats element
  | base {base : String} {type : ComplexType} {extension : Extension} {entries : List Entry}
      {repeats : Bool} {element : Element} (htype : outer.complexType? = some type)
      (hshape : contentShape type = .extended base extension)
      (hbase : c.typeMap.isPrimitive base = false)
      (h : c.TypeLeads schema base entries repeats element) : Leads outer entries repeats element
  | named {name : String} {entries : List Entry} {repeats : Bool} {element : Element}
      (hinline : outer.complexType? = none) (hsimple : outer.simpleType? = none)
      (hname : nonempty? outer.typeName? = some name)
      (hprimitive : c.typeMap.isPrimitive name = false)
      (h : c.TypeLeads schema name entries repeats element) : Leads outer entries repeats element
  | items {type : SimpleType} {itemName : String} {entries : List Entry} {repeats : Bool}
      {element : Element} (hinline : outer.complexType? = none)
      (hsimple : outer.simpleType? = some type) (hitem : type.itemName? = some itemName)
      (hprimitive : c.typeMap.isPrimitive itemName = false)
      (h : c.TypeLeads schema itemName entries repeats element) :
      Leads outer entries repeats element

variable {c schema}

/-- The entries of a definition start with its own. -/
theorem TypeLeads.exists_cons {name : String} {entries : List Entry} {repeats : Bool}
    {element : Element} (h : c.TypeLeads schema name entries repeats element) :
    ∃ kind rest, kind ≠ .group ∧ entries = (kind, name) :: rest := by
  cases h with
  | own => exact ⟨_, _, by decide, rfl⟩
  | base => exact ⟨_, _, by decide, rfl⟩
  | items => exact ⟨_, _, by decide, rfl⟩

end Conversion

end SchemaBridge
