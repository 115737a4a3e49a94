import SchemaBridge.Proofs.Xsd.Regular

/-!
# Types whose content an element has

The content of an element is described by its complex type, inline or named, and by the bases of that
type (`Element.Includes`). Each of these types adds the members of its sequence, and so every one of
them is among the members of the element's content (`Element.Includes.exists_mem_contentMembers`),
below the same optional and repeating references, even where the sequence is flattened inside other
names. Only group references are refused on account of open names, and on the way to a base no group
is entered.
-/

set_option autoImplicit false

namespace SchemaBridge.Xsd

/-- The complex types that describe the content of an element: its inline type or the registered one
that it names, and the registered bases of such a type. -/
inductive Element.Includes (registry : Registry) (element : Element) : ComplexType → Prop where
  | inline {type : ComplexType} (htype : element.complexType? = some type) :
      Includes registry element type
  | named {type : ComplexType} {name : String} (hinline : element.complexType? = none)
      (hname : nonempty? element.typeName? = some name)
      (htype : registry.complexTypes.value? name = some type) : Includes registry element type
  | base {type base : ComplexType} {extension : Extension} {name : String}
      (h : Includes registry element type) (hextension : type.complexContent? = some extension)
      (hname : nonempty? extension.base? = some name)
      (hbase : registry.complexTypes.value? name = some base) : Includes registry element base

variable {registry : Registry} {element : Element}

theorem Element.Includes.contains {schema : Schema} {type : ComplexType}
    (h : element.Includes (Registry.ofSchema schema) type)
    (helement : schema.Contains (.element element)) : schema.Contains (.complexType type) := by
  cases h with
  | inline htype => exact .inline helement htype
  | named _ _ htype => exact .of_complexTypes_value? htype
  | base _ _ _ hbase => exact .of_complexTypes_value? hbase

/-! ## Entering the types of an element -/

/-- The types of an element as they are entered one after another, with the names open inside. -/
inductive Element.Enters (registry : Registry) (element : Element) :
    OpenNames → ComplexType → Prop where
  | inline {type : ComplexType} {names : OpenNames} (htype : element.complexType? = some type)
      (henter : ({} : OpenNames).enter .complexType type.name? = some names) :
      Enters registry element names type
  | named {type : ComplexType} {names : OpenNames} (hinline : element.complexType? = none)
      (henter : registry.enterComplexType? {} element.typeName? = some (names, type)) :
      Enters registry element names type
  | base {type base : ComplexType} {extension : Extension} {names inner : OpenNames}
      (h : Enters registry element names type) (hextension : type.complexContent? = some extension)
      (henter : registry.enterComplexType? names extension.base? = some (inner, base)) :
      Enters registry element inner base

section Enters

variable {names : OpenNames} {type : ComplexType}

/-- The members of an entered type are members of the content. -/
theorem Element.Enters.mem_contentMembers (h : element.Enters registry names type) {m : Member}
    (hm : m ∈ type.enteredMembers registry names) : m ∈ element.contentMembers registry {} := by
  induction h with
  | inline htype henter =>
      simp only [Element.contentMembers, htype, ComplexType.members, henter]
      exact hm
  | named hinline henter =>
      simp only [Element.contentMembers, hinline, henter]
      exact hm
  | base _ hextension henter ih =>
      apply ih
      rw [ComplexType.enteredMembers_eq, hextension]
      refine List.mem_append_right _ (List.mem_append_right _ ?_)
      rw [henter]
      exact hm

/-- No group is entered on the way to a type. -/
theorem Element.Enters.isOpen_group (h : element.Enters registry names type) (name : String) :
    names.isOpen .group name = false := by
  induction h with
  | @inline type names htype henter =>
      obtain ⟨-, rfl⟩ := (ComplexType.enter_eq_some_iff ..).1 henter
      unfold ComplexType.entry
      cases type.name? <;> rfl
  | named _ henter =>
      obtain ⟨found, -, -, -, rfl⟩ := (registry.enterComplexType?_eq_some_iff ..).1 henter
      rfl
  | base _ _ henter ih =>
      obtain ⟨found, -, -, -, rfl⟩ := (registry.enterComplexType?_eq_some_iff ..).1 henter
      rw [Registry.isOpen_push, ih]
      rfl

/-- A registered type whose name is open has been entered. -/
theorem Element.Enters.exists_of_isOpen (h : element.Enters registry names type)
    (hunnamed : ∀ inline, element.complexType? = some inline → inline.name? = none) {name : String}
    (hopen : names.isOpen .complexType name = true) {found : ComplexType}
    (hfound : registry.complexTypes.value? name = some found) :
    ∃ inner, element.Enters registry inner found := by
  induction h with
  | inline htype henter =>
      rw [hunnamed _ htype] at henter
      cases henter
      cases hopen
  | @named type names hinline henter =>
      have hnamed : element.Enters registry names type := .named hinline henter
      obtain ⟨entered, -, hvalue, -, rfl⟩ := (registry.enterComplexType?_eq_some_iff ..).1 henter
      rw [Registry.isOpen_push] at hopen
      have hname : name = entered := by simpa [OpenNames.isOpen, OpenNames.ofKind] using hopen
      rw [hname, hvalue, Option.some.injEq] at hfound
      exact ⟨_, hfound ▸ hnamed⟩
  | @base type base extension names inner h hextension henter ih =>
      have hbase : element.Enters registry inner base := .base h hextension henter
      obtain ⟨entered, -, hvalue, -, rfl⟩ := (registry.enterComplexType?_eq_some_iff ..).1 henter
      rw [Registry.isOpen_push, Bool.or_eq_true] at hopen
      rcases hopen with hopen | hopen
      · exact ih hopen
      · have hname : name = entered := by simpa using hopen
        rw [hname, hvalue, Option.some.injEq] at hfound
        exact ⟨_, hfound ▸ hbase⟩

/-- Every type of an element is entered: where a base is refused, it has been entered before. -/
theorem Element.Includes.exists_enters (h : element.Includes registry type)
    (hunnamed : ∀ inline, element.complexType? = some inline → inline.name? = none) :
    ∃ names, element.Enters registry names type := by
  induction h with
  | @inline type htype =>
      refine ⟨{}, .inline htype ?_⟩
      rw [hunnamed type htype]
      rfl
  | @named type name hinline hname htype =>
      exact ⟨_, .named hinline
        ((registry.enterComplexType?_eq_some_iff ..).2 ⟨name, hname, htype, rfl, rfl⟩)⟩
  | @base type base extension name _ hextension hname hbase ih =>
      -- The base is entered now, or it is refused because its name is open already.
      obtain ⟨names, henters⟩ := ih
      cases hopen : names.isOpen .complexType name with
      | true => exact henters.exists_of_isOpen hunnamed hopen hbase
      | false =>
          exact ⟨_, .base henters hextension
            ((registry.enterComplexType?_eq_some_iff ..).2 ⟨name, hname, hbase, hopen, rfl⟩)⟩

end Enters

/-! ## Members of the content -/

/-- A sequence has the same members, and maybe more, where fewer groups are open. -/
theorem Sequence.exists_mem_membersBelow {optional repeats : Bool} {names fewer : OpenNames}
    {sequence : Sequence} {m : Member}
    (h : m ∈ sequence.membersBelow registry optional repeats names)
    (hopen : ∀ name, fewer.isOpen .group name = true → names.isOpen .group name = true) :
    ∃ inner, ⟨m.element, inner, m.optional, m.repeats⟩ ∈
      sequence.membersBelow registry optional repeats fewer := by
  induction optional, repeats, names, sequence using Sequence.membersBelow.induct registry
    generalizing fewer with
  | case1 optional repeats names sequence ih =>
      rw [Sequence.membersBelow_eq] at h ⊢
      rcases List.mem_append.1 h with h | h
      · obtain ⟨own, hown, rfl⟩ := List.mem_map.1 h
        exact ⟨fewer, List.mem_append_left _ (List.mem_map.2 ⟨own, hown, rfl⟩)⟩
      · obtain ⟨ref, href, hm⟩ := List.mem_flatMap.1 h
        split at hm
        · cases hm
        · rename_i below content henter
          obtain ⟨name, hname, hcontent, hclosed, rfl⟩ :=
            (registry.enterGroup?_eq_some_iff ..).1 henter
          -- A group that can be entered with more names open can be entered with fewer.
          have hfewer : fewer.isOpen .group name = false := by
            cases hvalue : fewer.isOpen .group name with
            | false => rfl
            | true => rw [hopen name hvalue] at hclosed; cases hclosed
          have henter' := (registry.enterGroup?_eq_some_iff fewer _ ref.ref? content).2
            ⟨name, hname, hcontent, hfewer, rfl⟩
          obtain ⟨inner, hinner⟩ := @ih ref _ content henter (fewer.push .group name) hm <| by
            intro other hother
            rw [Registry.isOpen_push, Bool.or_eq_true] at hother ⊢
            exact hother.imp_left (hopen other)
          refine ⟨inner, List.mem_append_right _ (List.mem_flatMap.2 ⟨ref, href, ?_⟩)⟩
          rw [henter']
          exact hinner

/-- **What the sequence of a type adds is content of every element with the type**, below the same
references. -/
theorem Element.Includes.exists_mem_contentMembers {type : ComplexType}
    (h : element.Includes registry type)
    (hunnamed : ∀ inline, element.complexType? = some inline → inline.name? = none)
    {names : OpenNames} {m : Member}
    (hm : m ∈ Sequence.optionalMembers registry names (contentShape type).sequence?) :
    ∃ inner, ⟨m.element, inner, m.optional, m.repeats⟩ ∈ element.contentMembers registry {} := by
  obtain ⟨entered, henters⟩ := h.exists_enters hunnamed
  cases hsequence : (contentShape type).sequence? with
  | none =>
      rw [hsequence] at hm
      cases hm
  | some sequence =>
      rw [hsequence] at hm
      -- On the way to the type no group is open, so no reference is refused that `names` allows.
      have hgroups : ∀ name, entered.isOpen .group name = true →
          names.isOpen .group name = true := by
        intro name hopen
        rw [henters.isOpen_group name] at hopen
        cases hopen
      obtain ⟨inner, hinner⟩ := Sequence.exists_mem_membersBelow hm hgroups
      refine ⟨inner, henters.mem_contentMembers ?_⟩
      rw [ComplexType.enteredMembers_eq]
      rcases sequence?_contentShape type hsequence with hown | ⟨extension, hextension, hadded⟩
      · rw [hown]
        exact List.mem_append_left _ hinner
      · rw [hextension]
        refine List.mem_append_right _ (List.mem_append_left _ ?_)
        rw [hadded]
        exact hinner

end SchemaBridge.Xsd
