import SchemaBridge.Xsd.OpenNames
import SchemaBridge.Xsd.Registry

/-!
# Content of sequences and types

Every walk over a schema asks the same question: which elements are declared in the content of this
sequence, or of this type, once group references are replaced by the groups they name and derived
types by their bases? The answer is a list of members. A member is an element together with what the
references above it say: the names open there, whether one of them is optional, and whether one of
them repeats.

* `Sequence.members` flattens a sequence: its own elements, then the groups it refers to.
* `ComplexType.members` adds the members of the extension and of the base type.
* `Element.contentMembers` takes the inline type of an element, or else the registered one.

References may be circular. Entering a registered declaration opens its name, so the number of
registered names that are not open (`Registry.unopened`) goes down and the flattening ends.
-/

set_option autoImplicit false

namespace SchemaBridge.Xsd

/-- An element in the content of a sequence or a type. -/
structure Member where
  element : Element
  /-- The names open where the element is declared. -/
  names : OpenNames
  /-- A group reference above the element is optional. -/
  optional : Bool := false
  /-- A group reference above the element repeats. -/
  repeats : Bool := false

namespace Registry

/-- The registered names of a kind. -/
def namesOf (registry : Registry) : DeclarationKind → List String
  | .complexType => Fields.names registry.complexTypes
  | .simpleType => Fields.names registry.simpleTypes
  | .group => Fields.names registry.groups

/-- The number of registered names of a kind that are not open. -/
def unopenedOf (registry : Registry) (names : OpenNames) (kind : DeclarationKind) : Nat :=
  (registry.namesOf kind).countP fun name => !names.isOpen kind name

/-- The number of registered names that are not open. -/
def unopened (registry : Registry) (names : OpenNames) : Nat :=
  registry.unopenedOf names .complexType + registry.unopenedOf names .simpleType +
    registry.unopenedOf names .group

/-- The group that a reference enters: its sequence and the names open inside. A reference to no
registered group, to a group without a sequence or to an open group enters nothing. -/
def enterGroup? (registry : Registry) (names : OpenNames) (ref? : Option String) :
    Option (OpenNames × Sequence) :=
  match nonempty? ref? with
  | none => none
  | some name =>
      match (registry.groups.value? name).bind Group.sequence? with
      | none => none
      | some sequence => (names.enter .group (some name)).map fun inner => (inner, sequence)

/-- The registered complex type that a name enters, and the names open inside. -/
def enterComplexType? (registry : Registry) (names : OpenNames) (name? : Option String) :
    Option (OpenNames × ComplexType) :=
  match nonempty? name? with
  | none => none
  | some name =>
      match registry.complexTypes.value? name with
      | none => none
      | some type => (names.enter .complexType (some name)).map fun inner => (inner, type)

/-- The registered simple type that a name enters, and the names open inside. -/
def enterSimpleType? (registry : Registry) (names : OpenNames) (name? : Option String) :
    Option (OpenNames × SimpleType) :=
  match nonempty? name? with
  | none => none
  | some name =>
      match registry.simpleTypes.value? name with
      | none => none
      | some type => (names.enter .simpleType (some name)).map fun inner => (inner, type)

/-! ## Entering a registered declaration leaves fewer names unopened -/

theorem countP_lt_of_imp {α : Type} {p q : α → Bool} {list : List α}
    (himp : ∀ a ∈ list, p a = true → q a = true)
    (hex : ∃ a ∈ list, p a = false ∧ q a = true) : list.countP p < list.countP q := by
  induction list with
  | nil => obtain ⟨a, ha, -⟩ := hex; cases ha
  | cons b rest ih =>
      have hrest : rest.countP p ≤ rest.countP q :=
        List.countP_mono_left fun a ha h => himp a (List.mem_cons_of_mem _ ha) h
      have himp' : ∀ a ∈ rest, p a = true → q a = true :=
        fun a ha h => himp a (List.mem_cons_of_mem _ ha) h
      obtain ⟨a, ha, hp, hq⟩ := hex
      rcases List.mem_cons.1 ha with hab | ha'
      · subst hab
        simp only [List.countP_cons, hp, hq, if_true]
        simp
        omega
      · have hlt := ih himp' ⟨a, ha', hp, hq⟩
        have hb := himp b (List.mem_cons_self ..)
        simp only [List.countP_cons]
        cases hpb : p b with
        | false => simp; split <;> omega
        | true => simp [hb hpb]; omega

theorem isOpen_push (names : OpenNames) (kind other : DeclarationKind) (name candidate : String) :
    (names.push kind name).isOpen other candidate =
      (names.isOpen other candidate || (decide (other = kind) && candidate == name)) := by
  by_cases h : other = kind
  · subst h
    simp only [OpenNames.isOpen, OpenNames.push, OpenNames.ofKind_withKind_self,
      List.contains_cons, decide_true, Bool.true_and]
    exact Bool.or_comm _ _
  · simp [OpenNames.isOpen, OpenNames.push, h]

theorem unopenedOf_push_le (registry : Registry) (names : OpenNames) (kind other : DeclarationKind)
    (name : String) :
    registry.unopenedOf (names.push kind name) other ≤ registry.unopenedOf names other := by
  apply List.countP_mono_left
  intro candidate _ h
  simp only [isOpen_push, Bool.not_or, Bool.and_eq_true] at h
  exact h.1

theorem unopenedOf_push_lt {registry : Registry} {names : OpenNames} {kind : DeclarationKind}
    {name : String} (hmem : name ∈ registry.namesOf kind)
    (hclosed : names.isOpen kind name = false) :
    registry.unopenedOf (names.push kind name) kind < registry.unopenedOf names kind := by
  apply countP_lt_of_imp
  · intro candidate _ h
    simp only [isOpen_push, Bool.not_or, Bool.and_eq_true] at h
    exact h.1
  · exact ⟨name, hmem, by simp [isOpen_push], by simp [hclosed]⟩

theorem unopened_push_le (registry : Registry) (names : OpenNames) (kind : DeclarationKind)
    (name : String) : registry.unopened (names.push kind name) ≤ registry.unopened names := by
  have hc := registry.unopenedOf_push_le names kind .complexType name
  have hs := registry.unopenedOf_push_le names kind .simpleType name
  have hg := registry.unopenedOf_push_le names kind .group name
  unfold unopened
  omega

theorem unopened_push_lt {registry : Registry} {names : OpenNames} {kind : DeclarationKind}
    {name : String} (hmem : name ∈ registry.namesOf kind)
    (hclosed : names.isOpen kind name = false) :
    registry.unopened (names.push kind name) < registry.unopened names := by
  have hlt := unopenedOf_push_lt hmem hclosed
  have hc := registry.unopenedOf_push_le names kind .complexType name
  have hs := registry.unopenedOf_push_le names kind .simpleType name
  have hg := registry.unopenedOf_push_le names kind .group name
  unfold unopened
  cases kind <;> omega

/-- Entering any declaration never increases the number of unopened names. -/
theorem unopened_le_of_enter (registry : Registry) {names inner : OpenNames}
    {kind : DeclarationKind} {name? : Option String} (h : names.enter kind name? = some inner) :
    registry.unopened inner ≤ registry.unopened names := by
  cases name? with
  | none =>
      simp only [OpenNames.enter, Option.some.injEq] at h
      exact h ▸ Nat.le_refl _
  | some name =>
      simp only [OpenNames.enter] at h
      split at h
      · cases h
      · simp only [Option.some.injEq] at h
        rw [← h]
        exact registry.unopened_push_le names kind name

theorem unopened_lt_of_enter {registry : Registry} {names inner : OpenNames}
    {kind : DeclarationKind} {name : String} (hmem : name ∈ registry.namesOf kind)
    (h : names.enter kind (some name) = some inner) :
    registry.unopened inner < registry.unopened names := by
  simp only [OpenNames.enter] at h
  split at h
  · cases h
  · rename_i hopen
    simp only [Option.some.injEq] at h
    rw [← h]
    exact unopened_push_lt hmem (by simpa using hopen)

theorem unopened_lt_of_enterGroup? {registry : Registry} {names inner : OpenNames}
    {ref? : Option String} {sequence : Sequence}
    (h : registry.enterGroup? names ref? = some (inner, sequence)) :
    registry.unopened inner < registry.unopened names := by
  unfold enterGroup? at h
  split at h
  · cases h
  · split at h
    · cases h
    · rename_i name _ _ hvalue
      obtain ⟨names', henter, heq⟩ := Option.map_eq_some_iff.1 h
      obtain ⟨group, hgroup, -⟩ := Option.bind_eq_some_iff.1 hvalue
      cases heq
      exact unopened_lt_of_enter (Fields.mem_names_of_value? hgroup) henter

theorem unopened_lt_of_enterComplexType? {registry : Registry} {names inner : OpenNames}
    {name? : Option String} {type : ComplexType}
    (h : registry.enterComplexType? names name? = some (inner, type)) :
    registry.unopened inner < registry.unopened names := by
  unfold enterComplexType? at h
  split at h
  · cases h
  · split at h
    · cases h
    · rename_i hvalue
      obtain ⟨names', henter, heq⟩ := Option.map_eq_some_iff.1 h
      cases heq
      exact unopened_lt_of_enter (Fields.mem_names_of_value? hvalue) henter

theorem unopened_lt_of_enterSimpleType? {registry : Registry} {names inner : OpenNames}
    {name? : Option String} {type : SimpleType}
    (h : registry.enterSimpleType? names name? = some (inner, type)) :
    registry.unopened inner < registry.unopened names := by
  unfold enterSimpleType? at h
  split at h
  · cases h
  · split at h
    · cases h
    · rename_i hvalue
      obtain ⟨names', henter, heq⟩ := Option.map_eq_some_iff.1 h
      cases heq
      exact unopened_lt_of_enter (Fields.mem_names_of_value? hvalue) henter

end Registry

/-! ## Sequences -/

/-- The members of a sequence below group references of which some is optional, or repeats: its own
elements, then the members of the groups it refers to, in order. -/
def Sequence.membersBelow (registry : Registry) (optional repeats : Bool) (names : OpenNames)
    (sequence : Sequence) : List Member :=
  sequence.elements.map (fun element => ⟨element, names, optional, repeats⟩) ++
    sequence.groups.flatMap fun ref =>
      match _entered : registry.enterGroup? names ref.ref? with
      | none => []
      | some (inner, content) =>
          Sequence.membersBelow registry (optional || ref.occurs.isOptional)
            (repeats || ref.occurs.isUnbounded) inner content
termination_by registry.unopened names
decreasing_by exact Registry.unopened_lt_of_enterGroup? _entered

/-- The members of a sequence. -/
def Sequence.members (registry : Registry) (names : OpenNames) (sequence : Sequence) :
    List Member :=
  sequence.membersBelow registry false false names

/-- The members of a sequence that may be missing. -/
def Sequence.optionalMembers (registry : Registry) (names : OpenNames) :
    Option Sequence → List Member
  | none => []
  | some sequence => sequence.members registry names

/-! ## Complex types -/

/-- The members of a complex type whose name is already open: those of its sequence, those of its
extension, and those of the registered type that it extends. -/
def ComplexType.enteredMembers (registry : Registry) (names : OpenNames) (type : ComplexType) :
    List Member :=
  Sequence.optionalMembers registry names type.sequence? ++
    match type.complexContent? with
    | none => []
    | some extension =>
        Sequence.optionalMembers registry names extension.sequence? ++
          match _entered : registry.enterComplexType? names extension.base? with
          | none => []
          | some (inner, base) => ComplexType.enteredMembers registry inner base
termination_by registry.unopened names
decreasing_by exact Registry.unopened_lt_of_enterComplexType? _entered

/-- The members of a complex type; none when its name is open already. -/
def ComplexType.members (registry : Registry) (names : OpenNames) (type : ComplexType) :
    List Member :=
  match names.enter .complexType type.name? with
  | none => []
  | some inner => type.enteredMembers registry inner

/-- The members of the content of an element: of its inline complex type, or else of the registered
one that it names. -/
def Element.contentMembers (registry : Registry) (names : OpenNames) (element : Element) :
    List Member :=
  match element.complexType? with
  | some type => type.members registry names
  | none =>
      match registry.enterComplexType? names element.typeName? with
      | none => []
      | some (inner, type) => type.enteredMembers registry inner

/-! ## Members are smaller than their sequence

A member lies below an entered declaration, and then fewer names are unopened there; or it is one of
the elements of the sequence itself.
-/

theorem Sequence.mem_membersBelow {registry : Registry} {optional repeats : Bool}
    {names : OpenNames} {sequence : Sequence} {m : Member}
    (h : m ∈ sequence.membersBelow registry optional repeats names) :
    registry.unopened m.names < registry.unopened names ∨
      (m.names = names ∧ m.element ∈ sequence.elements) := by
  induction optional, repeats, names, sequence using Sequence.membersBelow.induct registry
  rename_i optional repeats names sequence ih
  rw [Sequence.membersBelow] at h
  rcases List.mem_append.1 h with h | h
  · obtain ⟨element, helement, rfl⟩ := List.mem_map.1 h
    exact Or.inr ⟨rfl, helement⟩
  · obtain ⟨ref, -, hm⟩ := List.mem_flatMap.1 h
    split at hm
    · cases hm
    · rename_i inner content henter
      have hlt := Registry.unopened_lt_of_enterGroup? henter
      rcases ih ref inner content henter hm with hless | ⟨heq, -⟩
      · exact Or.inl (Nat.lt_trans hless hlt)
      · exact Or.inl (heq ▸ hlt)

theorem Sequence.mem_members {registry : Registry} {names : OpenNames} {sequence : Sequence}
    {m : Member} (h : m ∈ sequence.members registry names) :
    registry.unopened m.names < registry.unopened names ∨
      (m.names = names ∧ m.element ∈ sequence.elements) :=
  Sequence.mem_membersBelow h

/-- A size that members go below: first the unopened names count, then the declaration itself. -/
theorem Sequence.member_lt {registry : Registry} {names : OpenNames} {sequence : Sequence}
    {m : Member} (h : m ∈ sequence.members registry names) :
    Prod.Lex (· < ·) (· < ·) (registry.unopened m.names, sizeOf m.element)
      (registry.unopened names, sizeOf sequence) := by
  rcases Sequence.mem_members h with hlt | ⟨heq, hmem⟩
  · exact Prod.Lex.left _ _ hlt
  · rw [heq]
    apply Prod.Lex.right
    have := List.sizeOf_lt_of_mem hmem
    cases sequence
    simp at this ⊢
    omega

theorem Sequence.optionalMember_lt {registry : Registry} {names : OpenNames}
    {sequence? : Option Sequence} {m : Member}
    (h : m ∈ Sequence.optionalMembers registry names sequence?) :
    Prod.Lex (· < ·) (· < ·) (registry.unopened m.names, sizeOf m.element)
      (registry.unopened names, sizeOf sequence?) := by
  cases sequence? with
  | none => cases h
  | some sequence =>
      have hlt := Sequence.member_lt h
      rcases Prod.lex_def.1 hlt with hl | ⟨he, hl⟩
      · exact Prod.Lex.left _ _ hl
      · simp only at he hl
        rw [he]
        apply Prod.Lex.right
        simp
        omega

end SchemaBridge.Xsd
