import Mathlib.Data.List.Flatten
import SchemaBridge.Proofs.JsonSchema.Content
import SchemaBridge.Proofs.Xsd.Declares
import SchemaBridge.Proofs.Xsd.Registered

/-!
# Regular schemas

A schema is regular when its declarations say one thing each: a complex type describes its content
in one way, an element has one kind of type, inline types carry no name, no complex type takes the
name of a built-in type, and neither the top-level elements nor the elements that end up in one
object share a name (`Schema.Regular`).

The conditions speak of every declaration of the schema, however deep it lies (`Schema.Contains`).
What a contained declaration declares is contained again, so they hold all along a walk.
-/

set_option autoImplicit false

namespace SchemaBridge.Xsd

/-! ## Declarations of a schema -/

/-- A declaration that can lie in others. -/
inductive Component where
  | element (element : Element)
  | complexType (type : ComplexType)
  | sequence (sequence : Sequence)

/-- A schema contains a declaration: at the top, or inside a declaration that it contains. -/
inductive Schema.Contains (schema : Schema) : Component → Prop where
  | element {element : Element} (h : element ∈ schema.elements) : Contains schema (.element element)
  | complexType {type : ComplexType} (h : type ∈ schema.complexTypes) :
      Contains schema (.complexType type)
  | group {group : Group} {sequence : Sequence} (h : group ∈ schema.groups)
      (hsequence : group.sequence? = some sequence) : Contains schema (.sequence sequence)
  | inline {element : Element} {type : ComplexType} (h : Contains schema (.element element))
      (htype : element.complexType? = some type) : Contains schema (.complexType type)
  | own {type : ComplexType} {sequence : Sequence} (h : Contains schema (.complexType type))
      (hsequence : type.sequence? = some sequence) : Contains schema (.sequence sequence)
  | extension {type : ComplexType} {extension : Extension} {sequence : Sequence}
      (h : Contains schema (.complexType type))
      (hextension : type.complexContent? = some extension)
      (hsequence : extension.sequence? = some sequence) : Contains schema (.sequence sequence)
  | member {sequence : Sequence} {element : Element} (h : Contains schema (.sequence sequence))
      (helement : element ∈ sequence.elements) : Contains schema (.element element)

namespace Schema

variable {schema : Schema}

theorem Contains.of_complexTypes_value? {name : String} {type : ComplexType}
    (h : (Registry.ofSchema schema).complexTypes.value? name = some type) :
    schema.Contains (.complexType type) :=
  .complexType (Registry.mem_of_complexTypes_value? h).1

/-- What a contained sequence declares is contained. -/
theorem Contains.of_sequence_declares {sequence : Sequence} {entries : List Entry} {repeats : Bool}
    {element : Element} (hsequence : schema.Contains (.sequence sequence))
    (h : sequence.Declares (Registry.ofSchema schema) entries repeats element) :
    schema.Contains (.element element) := by
  induction h with
  | own helement => exact .member hsequence helement
  | group _ _ hcontent _ ih =>
      obtain ⟨group, hgroup, hgroupsequence⟩ := Option.bind_eq_some_iff.1 hcontent
      exact ih (.group (Registry.mem_of_groups_value? hgroup).1 hgroupsequence)

theorem Contains.of_complexType_declares {type : ComplexType} {entries : List Entry}
    {repeats : Bool} {element : Element} (htype : schema.Contains (.complexType type))
    (h : type.Declares (Registry.ofSchema schema) entries repeats element) :
    schema.Contains (.element element) := by
  induction h with
  | own hsequence h => exact .of_sequence_declares (.own htype hsequence) h
  | extension hextension hsequence h =>
      exact .of_sequence_declares (.extension htype hextension hsequence) h
  | base _ _ hbase _ ih => exact ih (.of_complexTypes_value? hbase)

theorem Contains.of_element_declares {outer element : Element} {entries : List Entry}
    {repeats : Bool} (houter : schema.Contains (.element outer))
    (h : outer.Declares (Registry.ofSchema schema) entries repeats element) :
    schema.Contains (.element element) := by
  cases h with
  | inline htype h => exact .of_complexType_declares (.inline houter htype) h
  | named _ _ htype h => exact .of_complexType_declares (.of_complexTypes_value? htype) h

/-- The sequence that a contained type adds to an object is contained. -/
theorem Contains.of_contentShape {type : ComplexType} {sequence : Sequence}
    (htype : schema.Contains (.complexType type))
    (h : (contentShape type).sequence? = some sequence) : schema.Contains (.sequence sequence) := by
  rcases sequence?_contentShape type h with hown | ⟨extension, hextension, hsequence⟩
  · exact .own htype hown
  · exact .extension htype hextension hsequence

/-- The members of a contained type are contained. -/
theorem Contains.of_mem_optionalMembers {type : ComplexType} {names : OpenNames} {m : Member}
    (htype : schema.Contains (.complexType type))
    (hm : m ∈ Sequence.optionalMembers (Registry.ofSchema schema) names
      (contentShape type).sequence?) : schema.Contains (.element m.element) := by
  obtain ⟨sequence, entries, hsequence, hdecl, -⟩ :=
    Sequence.mem_optionalMembers_iff.1 ⟨m.optional, hm⟩
  exact .of_sequence_declares (htype.of_contentShape hsequence) hdecl

/-! ## Regularity -/

/-- The names of the elements among members, in order. -/
def elementNames (members : List Member) : List String :=
  members.filterMap fun m => nonempty? m.element.name?

/-- A schema whose declarations say one thing each. -/
structure Regular (schema : Schema) : Prop where
  /-- A complex type has at most one of a plain sequence, complex content with a base, and simple
  content with a base. -/
  one_content : ∀ type, schema.Contains (.complexType type) →
    [type.sequence?.isSome, (extendedBase? type.complexContent?).isSome,
      (extendedBase? type.simpleContent?).isSome].count true ≤ 1
  /-- The complex type of an element carries no name. -/
  inline_unnamed : ∀ element type, schema.Contains (.element element) →
    element.complexType? = some type → type.name? = none
  /-- An element has at most one of a type name, an inline simple type and an inline complex
  type. -/
  one_type : ∀ element, schema.Contains (.element element) →
    [(nonempty? element.typeName?).isSome, element.simpleType?.isSome,
      element.complexType?.isSome].count true ≤ 1
  /-- The elements of one object, those of groups included, have different names. -/
  members_distinct : ∀ type sequence, schema.Contains (.complexType type) →
    (contentShape type).sequence? = some sequence →
    (elementNames (sequence.members (Registry.ofSchema schema) {})).Nodup
  /-- The top-level elements have different names. -/
  roots_distinct : (schema.elements.filterMap fun element => nonempty? element.name?).Nodup
  /-- No complex type has the name of a built-in type. -/
  not_builtin : ∀ type ∈ schema.complexTypes, ∀ name, nonempty? type.name? = some name →
    TypeMap.builtin.isPrimitive name = false

/-- Opening more names leaves out members, and changes no element. -/
theorem membersBelow_sublist {registry : Registry} {optional repeats optional' repeats' : Bool}
    {names fewer : OpenNames} {sequence : Sequence}
    (h : ∀ kind name, fewer.isOpen kind name = true → names.isOpen kind name = true) :
    ((sequence.membersBelow registry optional repeats names).map Member.element).Sublist
      ((sequence.membersBelow registry optional' repeats' fewer).map Member.element) := by
  induction optional, repeats, names, sequence using Sequence.membersBelow.induct registry
    generalizing optional' repeats' fewer with
  | case1 optional repeats names sequence ih =>
      rw [Sequence.membersBelow_eq, Sequence.membersBelow_eq _ optional']
      simp only [List.map_append, List.map_map, List.map_flatMap]
      apply List.Sublist.append
      · exact List.Sublist.refl _
      · apply List.Sublist.flatMap_right
        intro ref _
        cases henter : registry.enterGroup? names ref.ref? with
        | none => exact List.nil_sublist _
        | some pair =>
            obtain ⟨inner, content⟩ := pair
            obtain ⟨name, hname, hcontent, hopen, rfl⟩ :=
              (registry.enterGroup?_eq_some_iff ..).1 henter
            -- A group that can be entered with more names open can be entered with fewer.
            have hclosed : fewer.isOpen .group name = false := by
              cases hfewer : fewer.isOpen .group name with
              | false => rfl
              | true => rw [h _ _ hfewer] at hopen; cases hopen
            rw [(registry.enterGroup?_eq_some_iff ..).2 ⟨name, hname, hcontent, hclosed, rfl⟩]
            refine ih ref _ content henter fun kind other hother => ?_
            rw [Registry.isOpen_push, Bool.or_eq_true] at hother ⊢
            exact hother.imp_left (h kind other)

/-- The elements of one object have different names, whatever names are open around it. -/
theorem Regular.nodup_elementNames (hregular : schema.Regular) {type : ComplexType}
    {sequence : Sequence} (htype : schema.Contains (.complexType type))
    (hsequence : (contentShape type).sequence? = some sequence) (names : OpenNames) :
    (elementNames (sequence.members (Registry.ofSchema schema) names)).Nodup := by
  have hnames : ∀ members : List Member, elementNames members =
      (members.map Member.element).filterMap fun element => nonempty? element.name? := by
    intro members
    rw [elementNames, List.filterMap_map]
    rfl
  -- Regularity speaks of no open names, where the object has the most members.
  have hdistinct := hregular.members_distinct type sequence htype hsequence
  rw [hnames] at hdistinct ⊢
  refine List.Nodup.sublist (List.Sublist.filterMap _ (membersBelow_sublist ?_)) hdistinct
  intro kind name hopen
  cases kind <;> cases hopen

/-- A plain sequence is the content of a regular type. -/
theorem Regular.contentShape_of_sequence (hregular : schema.Regular) {type : ComplexType}
    {sequence : Sequence} (htype : schema.Contains (.complexType type))
    (hsequence : type.sequence? = some sequence) :
    contentShape type = .plain (some sequence) := by
  -- Next to a plain sequence neither kind of extension has a base.
  have hone := hregular.one_content type htype
  rw [contentShape_eq, ← hsequence]
  cases hcomplex : extendedBase? type.complexContent? with
  | some pair => simp [hsequence, hcomplex, List.count_cons] at hone
  | none =>
      cases hsimple : extendedBase? type.simpleContent? with
      | some pair => simp [hsequence, hsimple, List.count_cons] at hone
      | none => rfl

/-- An element with a complex type has no other type. -/
theorem Regular.of_complexType (hregular : schema.Regular) {element : Element} {type : ComplexType}
    (helement : schema.Contains (.element element)) (htype : element.complexType? = some type) :
    element.simpleType? = none ∧ nonempty? element.typeName? = none := by
  have hone := hregular.one_type element helement
  cases hsimple : element.simpleType? with
  | some simple =>
      simp [htype, hsimple, List.count_cons] at hone
      omega
  | none =>
      cases hname : nonempty? element.typeName? with
      | some name => simp [htype, hname, List.count_cons] at hone
      | none => exact ⟨rfl, rfl⟩

/-- An element with a type name has no other type. -/
theorem Regular.of_typeName (hregular : schema.Regular) {element : Element} {name : String}
    (helement : schema.Contains (.element element))
    (hname : nonempty? element.typeName? = some name) :
    element.simpleType? = none ∧ element.complexType? = none := by
  have hone := hregular.one_type element helement
  cases hsimple : element.simpleType? with
  | some simple => simp [hname, hsimple, List.count_cons] at hone
  | none =>
      cases htype : element.complexType? with
      | some type => simp [htype, hname, List.count_cons] at hone
      | none => exact ⟨rfl, rfl⟩

/-- The name of a registered complex type stands for no built-in type. -/
theorem Regular.isPrimitive_eq_false (hregular : schema.Regular) {name : String}
    {type : ComplexType} (h : (Registry.ofSchema schema).complexTypes.value? name = some type) :
    TypeMap.builtin.isPrimitive name = false := by
  obtain ⟨hmem, hname⟩ := Registry.mem_of_complexTypes_value? h
  exact hregular.not_builtin type hmem name hname

end Schema

end SchemaBridge.Xsd
