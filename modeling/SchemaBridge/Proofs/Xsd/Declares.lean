import SchemaBridge.Xsd.Content

/-!
# Which elements a declaration declares

`Sequence.Declares`, `ComplexType.Declares` and `Element.Declares` say which elements stand in the
content of a declaration once references are replaced, and which named declarations lie between: the
entries, outermost first. The relations know no guard against circles. The guard is a condition on
the entries alone (`OpenNames.Fresh`): no entry is open from the start and none occurs twice.

Main results: the members that the flattening of a declaration lists are exactly the elements that
it declares along fresh entries (`Sequence.mem_membersBelow_iff`,
`ComplexType.mem_enteredMembers_iff`, `Element.mem_contentMembers_iff`).
-/

set_option autoImplicit false

namespace SchemaBridge.Xsd

/-- A named declaration that is entered. -/
abbrev Entry : Type := DeclarationKind × String

namespace OpenNames

/-- The names that are open after entering declarations one after another. -/
def enterAll (names : OpenNames) (entries : List Entry) : OpenNames :=
  entries.foldl (fun inner entry => inner.push entry.1 entry.2) names

/-- The declarations can be entered one after another: none is open before, none occurs twice. -/
def Fresh (names : OpenNames) (entries : List Entry) : Prop :=
  entries.Nodup ∧ ∀ entry ∈ entries, names.isOpen entry.1 entry.2 = false

@[simp] theorem enterAll_nil (names : OpenNames) : names.enterAll [] = names := rfl

@[simp] theorem enterAll_cons (names : OpenNames) (entry : Entry) (rest : List Entry) :
    names.enterAll (entry :: rest) = (names.push entry.1 entry.2).enterAll rest := rfl

theorem enterAll_append (names : OpenNames) (first second : List Entry) :
    names.enterAll (first ++ second) = (names.enterAll first).enterAll second := by
  simp [enterAll, List.foldl_append]

@[simp] theorem fresh_nil (names : OpenNames) : names.Fresh [] := by
  simp [Fresh]

theorem fresh_cons (names : OpenNames) (entry : Entry) (rest : List Entry) :
    names.Fresh (entry :: rest) ↔
      names.isOpen entry.1 entry.2 = false ∧ (names.push entry.1 entry.2).Fresh rest := by
  have hopen : ∀ other : Entry, (names.push entry.1 entry.2).isOpen other.1 other.2 = false ↔
      names.isOpen other.1 other.2 = false ∧ other ≠ entry := by
    intro other
    rw [Registry.isOpen_push, Bool.or_eq_false_iff]
    apply and_congr_right
    intro _
    rw [Bool.and_eq_false_iff, ne_eq, Prod.ext_iff, Classical.not_and_iff_not_or_not]
    simp
  simp only [Fresh, List.nodup_cons, List.forall_mem_cons, hopen]
  constructor
  · rintro ⟨⟨hmem, hnodup⟩, hentry, hrest⟩
    exact ⟨hentry, hnodup, fun other hother =>
      ⟨hrest other hother, fun heq => hmem (heq ▸ hother)⟩⟩
  · rintro ⟨hentry, hnodup, hrest⟩
    exact ⟨⟨fun hmem => (hrest entry hmem).2 rfl, hnodup⟩, hentry,
      fun other hother => (hrest other hother).1⟩

theorem fresh_append (names : OpenNames) (first second : List Entry) :
    names.Fresh (first ++ second) ↔ names.Fresh first ∧ (names.enterAll first).Fresh second := by
  induction first generalizing names with
  | nil => simp
  | cons entry rest ih =>
      rw [List.cons_append, fresh_cons, fresh_cons, ih, enterAll_cons, and_assoc]

/-- From no open names, fresh entries are entries without repetitions. -/
theorem fresh_empty_iff (entries : List Entry) :
    ({} : OpenNames).Fresh entries ↔ entries.Nodup := by
  refine ⟨And.left, fun h => ⟨h, fun entry _ => ?_⟩⟩
  obtain ⟨kind, name⟩ := entry
  cases kind <;> rfl

/-- A named declaration is entered when its name is not open. -/
theorem enter_some_eq_some_iff (names inner : OpenNames) (kind : DeclarationKind) (name : String) :
    names.enter kind (some name) = some inner ↔
      names.isOpen kind name = false ∧ inner = names.push kind name := by
  simp only [enter]
  by_cases h : names.isOpen kind name = true
  · simp [h]
  · rw [if_neg h, Option.some.injEq, Bool.eq_false_iff]
    exact ⟨fun heq => ⟨h, heq.symm⟩, fun heq => heq.2.symm⟩

end OpenNames

namespace Registry

theorem enterGroup?_eq_some_iff (registry : Registry) (names inner : OpenNames)
    (ref? : Option String) (content : Sequence) :
    registry.enterGroup? names ref? = some (inner, content) ↔
      ∃ name, nonempty? ref? = some name ∧
        (registry.groups.value? name).bind Group.sequence? = some content ∧
        names.isOpen .group name = false ∧ inner = names.push .group name := by
  unfold enterGroup?
  constructor
  · intro h
    split at h
    · cases h
    · rename_i name hname
      split at h
      · cases h
      · rename_i found hfound
        obtain ⟨opened, henter, heq⟩ := Option.map_eq_some_iff.1 h
        cases heq
        exact ⟨name, hname, hfound, (OpenNames.enter_some_eq_some_iff ..).1 henter⟩
  · rintro ⟨name, hname, hfound, henter⟩
    simp only [hname, hfound, (OpenNames.enter_some_eq_some_iff ..).2 henter, Option.map_some]

theorem enterComplexType?_eq_some_iff (registry : Registry) (names inner : OpenNames)
    (name? : Option String) (type : ComplexType) :
    registry.enterComplexType? names name? = some (inner, type) ↔
      ∃ name, nonempty? name? = some name ∧ registry.complexTypes.value? name = some type ∧
        names.isOpen .complexType name = false ∧ inner = names.push .complexType name := by
  unfold enterComplexType?
  constructor
  · intro h
    split at h
    · cases h
    · rename_i name hname
      split at h
      · cases h
      · rename_i found hfound
        obtain ⟨opened, henter, heq⟩ := Option.map_eq_some_iff.1 h
        cases heq
        exact ⟨name, hname, hfound, (OpenNames.enter_some_eq_some_iff ..).1 henter⟩
  · rintro ⟨name, hname, hfound, henter⟩
    simp only [hname, hfound, (OpenNames.enter_some_eq_some_iff ..).2 henter, Option.map_some]

end Registry

/-! ## Sequences -/

/-- A sequence declares an element below group references. The entries are the groups on the way;
the flag says that one of the references repeats. -/
inductive Sequence.Declares (registry : Registry) :
    Sequence → List Entry → Bool → Element → Prop where
  /-- One of the sequence's own elements. -/
  | own {sequence : Sequence} {element : Element} (h : element ∈ sequence.elements) :
      Declares registry sequence [] false element
  /-- An element of a registered group that the sequence refers to. -/
  | group {sequence content : Sequence} {ref : Group} {name : String} {entries : List Entry}
      {repeats : Bool} {element : Element} (href : ref ∈ sequence.groups)
      (hname : nonempty? ref.ref? = some name)
      (hcontent : (registry.groups.value? name).bind Group.sequence? = some content)
      (h : Declares registry content entries repeats element) :
      Declares registry sequence ((.group, name) :: entries) (ref.occurs.isUnbounded || repeats)
        element

/-- Flattening a sequence, without the bookkeeping of its termination. -/
theorem Sequence.membersBelow_eq (registry : Registry) (optional repeats : Bool) (names : OpenNames)
    (sequence : Sequence) :
    sequence.membersBelow registry optional repeats names =
      sequence.elements.map (fun element => ⟨element, names, optional, repeats⟩) ++
        sequence.groups.flatMap fun ref =>
          match registry.enterGroup? names ref.ref? with
          | none => []
          | some (inner, content) =>
              content.membersBelow registry (optional || ref.occurs.isOptional)
                (repeats || ref.occurs.isUnbounded) inner := by
  rw [Sequence.membersBelow]
  congr 2
  funext ref
  split <;> rename_i h <;> simp only [h]

/-- The members of a sequence that may be missing, below references. -/
def Sequence.optionalMembersBelow (registry : Registry) (optional repeats : Bool)
    (names : OpenNames) : Option Sequence → List Member
  | none => []
  | some sequence => sequence.membersBelow registry optional repeats names

theorem Sequence.optionalMembers_eq (registry : Registry) (names : OpenNames)
    (sequence? : Option Sequence) :
    Sequence.optionalMembers registry names sequence? =
      Sequence.optionalMembersBelow registry false false names sequence? := by
  cases sequence? <;> rfl

/-- **Flattening lists exactly what a sequence declares** along fresh groups. -/
theorem Sequence.mem_membersBelow_iff {registry : Registry} {optional repeats : Bool}
    {names inner : OpenNames} {sequence : Sequence} {element : Element} {repeated : Bool} :
    (∃ o, ⟨element, inner, o, repeated⟩ ∈ sequence.membersBelow registry optional repeats names) ↔
      ∃ entries r, sequence.Declares registry entries r element ∧ names.Fresh entries ∧
        inner = names.enterAll entries ∧ repeated = (repeats || r) := by
  constructor
  · -- From members to declarations along the flattening itself.
    rintro ⟨o, h⟩
    induction optional, repeats, names, sequence using Sequence.membersBelow.induct registry
    rename_i optional repeats names sequence ih
    rw [Sequence.membersBelow_eq] at h
    rcases List.mem_append.1 h with h | h
    · obtain ⟨own, hown, heq⟩ := List.mem_map.1 h
      cases heq
      exact ⟨[], false, .own hown, OpenNames.fresh_nil _, rfl, by simp⟩
    · obtain ⟨ref, href, hm⟩ := List.mem_flatMap.1 h
      split at hm
      · cases hm
      · rename_i below content henter
        obtain ⟨name, hname, hcontent, hopen, rfl⟩ :=
          (registry.enterGroup?_eq_some_iff ..).1 henter
        obtain ⟨entries, r, hdecl, hfresh, hinner, hr⟩ := ih ref _ content henter hm
        refine ⟨_, _, .group href hname hcontent hdecl, ?_, hinner, ?_⟩
        · exact (OpenNames.fresh_cons ..).2 ⟨hopen, hfresh⟩
        · rw [hr, Bool.or_assoc]
  · -- Back along the declaration. Freshness says that the guard lets every group on the way in.
    rintro ⟨entries, r, hdecl, hfresh, rfl, rfl⟩
    induction hdecl generalizing optional repeats names with
    | own h =>
        refine ⟨optional, ?_⟩
        rw [Sequence.membersBelow_eq]
        exact List.mem_append_left _ (List.mem_map.2 ⟨_, h, by simp⟩)
    | @group sequence content ref name entries r element href hname hcontent _ ih =>
        rw [OpenNames.fresh_cons] at hfresh
        obtain ⟨o, ho⟩ := @ih (optional || ref.occurs.isOptional)
          (repeats || ref.occurs.isUnbounded) _ hfresh.2
        have henter := (registry.enterGroup?_eq_some_iff names _ ref.ref? content).2
          ⟨name, hname, hcontent, hfresh.1, rfl⟩
        refine ⟨o, ?_⟩
        rw [Sequence.membersBelow_eq]
        refine List.mem_append_right _ (List.mem_flatMap.2 ⟨ref, href, ?_⟩)
        rw [henter, OpenNames.enterAll_cons, ← Bool.or_assoc]
        exact ho

theorem Sequence.mem_optionalMembers_iff {registry : Registry} {names inner : OpenNames}
    {sequence? : Option Sequence} {element : Element} {repeated : Bool} :
    (∃ o, ⟨element, inner, o, repeated⟩ ∈ Sequence.optionalMembers registry names sequence?) ↔
      ∃ sequence entries, sequence? = some sequence ∧
        sequence.Declares registry entries repeated element ∧ names.Fresh entries ∧
        inner = names.enterAll entries := by
  cases sequence? with
  | none => simp [Sequence.optionalMembers]
  | some sequence =>
      simp only [Sequence.optionalMembers, Sequence.members, Sequence.mem_membersBelow_iff,
        Bool.false_or]
      constructor
      · rintro ⟨entries, r, hdecl, hfresh, hinner, rfl⟩
        exact ⟨sequence, entries, rfl, hdecl, hfresh, hinner⟩
      · rintro ⟨found, entries, hfound, hdecl, hfresh, hinner⟩
        cases hfound
        exact ⟨entries, repeated, hdecl, hfresh, hinner, rfl⟩

section Groups

variable {registry : Registry} {sequence : Sequence} (hgroups : sequence.groups = [])
include hgroups

/-- A sequence without groups declares its own elements. -/
theorem Sequence.declares_iff_of_groups_eq_nil {entries : List Entry} {repeats : Bool}
    {element : Element} :
    sequence.Declares registry entries repeats element ↔
      element ∈ sequence.elements ∧ entries = [] ∧ repeats = false := by
  constructor
  · intro h
    cases h with
    | own helement => exact ⟨helement, rfl, rfl⟩
    | group href =>
        rw [hgroups] at href
        cases href
  · rintro ⟨helement, rfl, rfl⟩
    exact .own helement

theorem Sequence.members_of_groups_eq_nil (names : OpenNames) :
    sequence.members registry names =
      sequence.elements.map fun element => ⟨element, names, false, false⟩ := by
  rw [Sequence.members, Sequence.membersBelow_eq, hgroups, List.flatMap_nil, List.append_nil]

end Groups

/-! ## Complex types and elements -/

/-- A complex type declares an element in its content: in its sequence, in the sequence of its
extension, or in the content of the registered type that it extends. -/
inductive ComplexType.Declares (registry : Registry) :
    ComplexType → List Entry → Bool → Element → Prop where
  | own {type : ComplexType} {sequence : Sequence} {entries : List Entry} {repeats : Bool}
      {element : Element} (hsequence : type.sequence? = some sequence)
      (h : sequence.Declares registry entries repeats element) :
      Declares registry type entries repeats element
  | extension {type : ComplexType} {extension : Extension} {sequence : Sequence}
      {entries : List Entry} {repeats : Bool} {element : Element}
      (hextension : type.complexContent? = some extension)
      (hsequence : extension.sequence? = some sequence)
      (h : sequence.Declares registry entries repeats element) :
      Declares registry type entries repeats element
  | base {type base : ComplexType} {extension : Extension} {name : String} {entries : List Entry}
      {repeats : Bool} {element : Element}
      (hextension : type.complexContent? = some extension)
      (hname : nonempty? extension.base? = some name)
      (hbase : registry.complexTypes.value? name = some base)
      (h : Declares registry base entries repeats element) :
      Declares registry type ((.complexType, name) :: entries) repeats element

/-- The entry of a complex type: none when it carries no name. -/
def ComplexType.entry (type : ComplexType) : List Entry :=
  type.name?.toList.map fun name => (.complexType, name)

/-- An element declares another one in the content of its complex type: of the inline one, or else
of the registered one that it names. -/
inductive Element.Declares (registry : Registry) (outer : Element) :
    List Entry → Bool → Element → Prop where
  | inline {type : ComplexType} {entries : List Entry} {repeats : Bool} {element : Element}
      (htype : outer.complexType? = some type)
      (h : type.Declares registry entries repeats element) :
      Declares registry outer (type.entry ++ entries) repeats element
  | named {type : ComplexType} {name : String} {entries : List Entry} {repeats : Bool}
      {element : Element} (hinline : outer.complexType? = none)
      (hname : nonempty? outer.typeName? = some name)
      (htype : registry.complexTypes.value? name = some type)
      (h : type.Declares registry entries repeats element) :
      Declares registry outer ((.complexType, name) :: entries) repeats element

/-- A type that is a plain sequence without groups declares the elements of that sequence. -/
theorem ComplexType.Declares.of_plain {registry : Registry} {type : ComplexType}
    {sequence : Sequence} {entries : List Entry} {repeats : Bool} {element : Element}
    (h : type.Declares registry entries repeats element) (hsequence : type.sequence? = some sequence)
    (hcontent : type.complexContent? = none) (hgroups : sequence.groups = []) :
    element ∈ sequence.elements ∧ entries = [] ∧ repeats = false := by
  cases h with
  | own hown h =>
      cases hsequence.symm.trans hown
      exact (Sequence.declares_iff_of_groups_eq_nil hgroups).1 h
  | extension hextension => cases hcontent.symm.trans hextension
  | base hextension => cases hcontent.symm.trans hextension

/-- A type of text declares nothing. -/
theorem ComplexType.not_declares {registry : Registry} {type : ComplexType} {entries : List Entry}
    {repeats : Bool} {element : Element} (hsequence : type.sequence? = none)
    (hcontent : type.complexContent? = none) : ¬ type.Declares registry entries repeats element := by
  intro h
  cases h with
  | own hown => cases hsequence.symm.trans hown
  | extension hextension => cases hcontent.symm.trans hextension
  | base hextension => cases hcontent.symm.trans hextension

/-- An element with an inline type that is a plain sequence without groups declares the elements of
that sequence. -/
theorem Element.Declares.of_plain {registry : Registry} {outer element : Element}
    {type : ComplexType} {sequence : Sequence} {entries : List Entry} {repeats : Bool}
    (h : outer.Declares registry entries repeats element) (htype : outer.complexType? = some type)
    (hsequence : type.sequence? = some sequence) (hcontent : type.complexContent? = none)
    (hgroups : sequence.groups = []) :
    element ∈ sequence.elements ∧ entries = type.entry ∧ repeats = false := by
  cases h with
  | inline hinline h =>
      cases htype.symm.trans hinline
      obtain ⟨hmem, rfl, hrepeats⟩ := h.of_plain hsequence hcontent hgroups
      exact ⟨hmem, List.append_nil _, hrepeats⟩
  | named hinline => cases htype.symm.trans hinline

/-- An element without an inline type declares nothing when no complex type has the name of its
type. -/
theorem Element.not_declares {registry : Registry} {outer element : Element} {entries : List Entry}
    {repeats : Bool} (hinline : outer.complexType? = none)
    (hnamed : ∀ name, nonempty? outer.typeName? = some name →
      registry.complexTypes.value? name = none) :
    ¬ outer.Declares registry entries repeats element := by
  intro h
  cases h with
  | inline htype => cases hinline.symm.trans htype
  | named _ hname htype => cases (hnamed _ hname).symm.trans htype

/-- The members of an entered type, without the bookkeeping of termination. -/
theorem ComplexType.enteredMembers_eq (registry : Registry) (names : OpenNames)
    (type : ComplexType) :
    type.enteredMembers registry names =
      Sequence.optionalMembers registry names type.sequence? ++
        match type.complexContent? with
        | none => []
        | some extension =>
            Sequence.optionalMembers registry names extension.sequence? ++
              match registry.enterComplexType? names extension.base? with
              | none => []
              | some (inner, base) => base.enteredMembers registry inner := by
  rw [ComplexType.enteredMembers]
  cases type.complexContent? with
  | none => rfl
  | some extension =>
      simp only
      split <;> rename_i h <;> simp only [h]

/-- **The members of an entered type are what it declares** along fresh entries. -/
theorem ComplexType.mem_enteredMembers_iff {registry : Registry} {names inner : OpenNames}
    {type : ComplexType} {element : Element} {repeated : Bool} :
    (∃ o, ⟨element, inner, o, repeated⟩ ∈ type.enteredMembers registry names) ↔
      ∃ entries, type.Declares registry entries repeated element ∧ names.Fresh entries ∧
        inner = names.enterAll entries := by
  constructor
  · -- The induction follows bases; sequences have been dealt with.
    rintro ⟨o, h⟩
    induction names, type using ComplexType.enteredMembers.induct registry
    rename_i names type ih
    rw [ComplexType.enteredMembers_eq] at h
    rcases List.mem_append.1 h with h | h
    · obtain ⟨sequence, entries, hsequence, hdecl, hfresh, hinner⟩ :=
        Sequence.mem_optionalMembers_iff.1 ⟨o, h⟩
      exact ⟨entries, .own hsequence hdecl, hfresh, hinner⟩
    · split at h
      · cases h
      · rename_i extension hextension
        rcases List.mem_append.1 h with h | h
        · obtain ⟨sequence, entries, hsequence, hdecl, hfresh, hinner⟩ :=
            Sequence.mem_optionalMembers_iff.1 ⟨o, h⟩
          exact ⟨entries, .extension hextension hsequence hdecl, hfresh, hinner⟩
        · split at h
          · cases h
          · rename_i below base henter
            obtain ⟨name, hname, hbase, hopen, rfl⟩ :=
              (registry.enterComplexType?_eq_some_iff ..).1 henter
            obtain ⟨entries, hdecl, hfresh, hinner⟩ := ih extension _ base henter h
            exact ⟨_, .base hextension hname hbase hdecl,
              (OpenNames.fresh_cons ..).2 ⟨hopen, hfresh⟩, hinner⟩
  · rintro ⟨entries, hdecl, hfresh, rfl⟩
    induction hdecl generalizing names with
    | own hsequence hdecl =>
        obtain ⟨o, ho⟩ := Sequence.mem_optionalMembers_iff.2
          ⟨_, _, hsequence, hdecl, hfresh, rfl⟩
        refine ⟨o, ?_⟩
        rw [ComplexType.enteredMembers_eq]
        exact List.mem_append_left _ ho
    | extension hextension hsequence hdecl =>
        obtain ⟨o, ho⟩ := Sequence.mem_optionalMembers_iff.2
          ⟨_, _, hsequence, hdecl, hfresh, rfl⟩
        refine ⟨o, ?_⟩
        rw [ComplexType.enteredMembers_eq, hextension]
        exact List.mem_append_right _ (List.mem_append_left _ ho)
    | @base type base extension name entries repeats element hextension hname hbase _ ih =>
        rw [OpenNames.fresh_cons] at hfresh
        obtain ⟨o, ho⟩ := ih hfresh.2
        have henter := (registry.enterComplexType?_eq_some_iff names _ extension.base? base).2
          ⟨name, hname, hbase, hfresh.1, rfl⟩
        refine ⟨o, ?_⟩
        rw [ComplexType.enteredMembers_eq, hextension]
        refine List.mem_append_right _ (List.mem_append_right _ ?_)
        rw [henter]
        exact ho

/-- A type is entered when its entry is fresh; a type without a name always is. -/
theorem ComplexType.enter_eq_some_iff (names inner : OpenNames) (type : ComplexType) :
    names.enter .complexType type.name? = some inner ↔
      names.Fresh type.entry ∧ inner = names.enterAll type.entry := by
  cases hname : type.name? with
  | none => simp [ComplexType.entry, hname, OpenNames.enter, eq_comm]
  | some name =>
      rw [OpenNames.enter_some_eq_some_iff]
      simp [ComplexType.entry, hname, OpenNames.fresh_cons]

theorem ComplexType.mem_members_iff {registry : Registry} {names inner : OpenNames}
    {type : ComplexType} {element : Element} {repeated : Bool} :
    (∃ o, ⟨element, inner, o, repeated⟩ ∈ type.members registry names) ↔
      ∃ entries, type.Declares registry entries repeated element ∧
        names.Fresh (type.entry ++ entries) ∧ inner = names.enterAll (type.entry ++ entries) := by
  unfold ComplexType.members
  constructor
  · rintro ⟨o, h⟩
    split at h
    · cases h
    · rename_i below henter
      obtain ⟨hentry, rfl⟩ := (ComplexType.enter_eq_some_iff ..).1 henter
      obtain ⟨entries, hdecl, hfresh, hinner⟩ := ComplexType.mem_enteredMembers_iff.1 ⟨o, h⟩
      refine ⟨entries, hdecl, (OpenNames.fresh_append ..).2 ⟨hentry, hfresh⟩, ?_⟩
      rw [hinner, OpenNames.enterAll_append]
  · rintro ⟨entries, hdecl, hfresh, rfl⟩
    rw [OpenNames.fresh_append] at hfresh
    have henter := (ComplexType.enter_eq_some_iff ..).2 ⟨hfresh.1, rfl⟩
    simp only [henter, OpenNames.enterAll_append]
    exact ComplexType.mem_enteredMembers_iff.2 ⟨entries, hdecl, hfresh.2, rfl⟩

/-- **The members of an element's content are what it declares** along fresh entries. -/
theorem Element.mem_contentMembers_iff {registry : Registry} {names inner : OpenNames}
    {outer element : Element} {repeated : Bool} :
    (∃ o, ⟨element, inner, o, repeated⟩ ∈ outer.contentMembers registry names) ↔
      ∃ entries, outer.Declares registry entries repeated element ∧ names.Fresh entries ∧
        inner = names.enterAll entries := by
  -- An inline type hides the type name, so each case has one kind of declaration.
  cases htype : outer.complexType? with
  | some type =>
      simp only [Element.contentMembers, htype, ComplexType.mem_members_iff]
      constructor
      · rintro ⟨entries, hdecl, hfresh, hinner⟩
        exact ⟨_, .inline htype hdecl, hfresh, hinner⟩
      · rintro ⟨entries, hdecl, hfresh, hinner⟩
        cases hdecl with
        | inline hfound hdecl =>
            cases htype.symm.trans hfound
            exact ⟨_, hdecl, hfresh, hinner⟩
        | named hinline => cases htype.symm.trans hinline
  | none =>
      simp only [Element.contentMembers, htype]
      constructor
      · rintro ⟨o, h⟩
        split at h
        · cases h
        · rename_i below type henter
          obtain ⟨name, hname, hfound, hopen, rfl⟩ :=
            (registry.enterComplexType?_eq_some_iff ..).1 henter
          obtain ⟨entries, hdecl, hfresh, hinner⟩ := ComplexType.mem_enteredMembers_iff.1 ⟨o, h⟩
          exact ⟨_, .named htype hname hfound hdecl,
            (OpenNames.fresh_cons ..).2 ⟨hopen, hfresh⟩, hinner⟩
      · rintro ⟨entries, hdecl, hfresh, hinner⟩
        cases hdecl with
        | inline hfound => cases htype.symm.trans hfound
        | named hinline hname hfound hdecl =>
            rw [OpenNames.fresh_cons] at hfresh
            simp only [(registry.enterComplexType?_eq_some_iff ..).2
              ⟨_, hname, hfound, hfresh.1, rfl⟩]
            exact ComplexType.mem_enteredMembers_iff.2 ⟨_, hdecl, hfresh.2, hinner⟩

end SchemaBridge.Xsd
