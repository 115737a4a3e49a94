import SchemaBridge.Proofs.JsonSchema.Definitions
import SchemaBridge.Proofs.JsonSchema.RecordedCalls

/-!
# Complex types keep their content

A complex type whose name is open already would be written as a schema that accepts anything. This
happens in no conversion of a document whose inline types have no names, however its types, groups
and bases refer to each other (`convertWith_keepsTypes`). A name of a complex type is only opened by
its definition, where no other one is open, and what lies below enters groups and types without
names. So at most one complex type is open at a time, none is refused, and every complex type is
written as an object or as a base together with an object.

The law for the steps of such a conversion is `opensOneType`. Recorded calls follow it as soon as the
law admits definitions, inline types and groups (`opensOneType_admitsParts`).
-/

set_option autoImplicit false

namespace SchemaBridge

open Xsd

/-! ## One open type -/

/-- No complex type is open. -/
def NoTypeOpen (names : OpenNames) : Prop :=
  names.complexTypes = []

/-- At most one complex type is open. -/
def OneTypeOpen (names : OpenNames) : Prop :=
  names.complexTypes.length ≤ 1

/-- When a step is made, at most one complex type is open, and no complex type is refused. -/
def opensOneType : StepLaw := fun names step =>
  OneTypeOpen names ∧
    ∀ name?, step = .enter .complexType name? → (names.enter .complexType name?).isSome

/-- Entering a group changes no names of complex types. -/
theorem Xsd.OpenNames.complexTypes_of_enter_group {names inner : OpenNames} {name? : Option String}
    (h : names.enter .group name? = some inner) : inner.complexTypes = names.complexTypes := by
  cases name? with
  | none =>
      cases h
      rfl
  | some name =>
      rw [OpenNames.enter] at h
      split at h
      · cases h
      · cases h
        rfl

theorem NoTypeOpen.oneTypeOpen {names : OpenNames} (h : NoTypeOpen names) : OneTypeOpen names := by
  rw [OneTypeOpen, h]
  exact Nat.zero_le 1

theorem opensOneType_leave {names : OpenNames} (h : OneTypeOpen names) :
    opensOneType names .leave :=
  ⟨h, fun _ heq => by cases heq⟩

/-- Where no complex type is open, each one can be entered. -/
theorem opensOneType_definition (name : String) :
    opensOneType.Admits NoTypeOpen OneTypeOpen .complexType (some name) := by
  intro names hnone
  -- A name is only refused when it is open, and no name is.
  have hentered : names.enter .complexType (some name) = some (names.push .complexType name) := by
    rw [OpenNames.enter, OpenNames.isOpen, OpenNames.ofKind, hnone]
    rfl
  have hinner : OneTypeOpen (names.push .complexType name) := by
    show (name :: names.complexTypes).length ≤ 1
    rw [hnone]
    exact Nat.le_refl 1
  rw [hentered]
  refine ⟨⟨hnone.oneTypeOpen, fun name? heq => ?_⟩, hinner, opensOneType_leave hinner⟩
  cases heq
  rw [hentered]
  rfl

/-- A type without a name opens nothing and is never refused. -/
theorem opensOneType_unnamed :
    opensOneType.Admits OneTypeOpen OneTypeOpen .complexType none := by
  intro names hone
  refine ⟨⟨hone, fun name? heq => ?_⟩, hone, opensOneType_leave hone⟩
  cases heq
  rfl

/-- A group may be refused, but it opens no complex type. -/
theorem opensOneType_group (name : String) :
    opensOneType.Admits OneTypeOpen OneTypeOpen .group (some name) := by
  intro names hone
  refine ⟨⟨hone, fun name? heq => by cases heq⟩, ?_⟩
  cases hentered : names.enter .group (some name) with
  | none => exact opensOneType_leave hone
  | some inner =>
      -- The open types inside are those outside, since each kind has names of its own.
      have hinner : OneTypeOpen inner := by
        rw [OneTypeOpen, OpenNames.complexTypes_of_enter_group hentered]
        exact hone
      exact ⟨hinner, opensOneType_leave hinner⟩

/-- The inline complex types of a schema have no names. -/
def Xsd.Schema.InlineTypesUnnamed (schema : Schema) : Prop :=
  ∀ element type, schema.Contains (.element element) → element.complexType? = some type →
    type.name? = none

theorem opensOneType_admitsParts {schema : Schema} (h : schema.InlineTypesUnnamed) :
    opensOneType.AdmitsParts schema NoTypeOpen OneTypeOpen where
  start_inside := fun names hnone => hnone.oneTypeOpen
  definition := opensOneType_definition
  inline := fun element type helement htype => by
    rw [h element type helement htype]
    exact opensOneType_unnamed
  group := opensOneType_group

/-! ## Content -/

/-- The schema of the content of a complex type: an object with properties, some of them required,
or a base together with such an object. -/
inductive JsonSchema.IsContent : JsonSchema → Prop where
  | object (properties : Fields JsonSchema) (required : List String) :
      IsContent (.object properties required)
  | extended (base : JsonSchema) (properties : Fields JsonSchema) (required : List String) :
      IsContent (.allOf [base, .object properties required])

theorem Conversion.isContent_contentSchema (c : Conversion) (names : OpenNames)
    (type : ComplexType) : (c.contentSchema names type).IsContent := by
  rw [contentSchema]
  cases contentShape type with
  | extended base extension => exact .extended _ _ _
  | text base extension => exact .object _ _
  | plain sequence? => exact .object _ _

/-- An element with an inline complex type has keywords, even if its simple type has no schema. -/
theorem Conversion.typeKeywords?_of_complexType (c : Conversion) {element : Element}
    {type : ComplexType} (h : element.complexType? = some type) :
    ∃ keywords, c.typeKeywords? element = some keywords := by
  rw [typeKeywords?]
  cases element.simpleType? with
  | none =>
      simp only
      cases nonempty? element.typeName? with
      | none => exact ⟨_, rfl⟩
      | some typeName => exact ⟨_, rfl⟩
  | some simple =>
      simp only
      cases c.simpleTypeSchema? simple with
      | some schema => exact ⟨schema, rfl⟩
      | none => exact ⟨.unconstrained, by rw [h]; rfl⟩

/-! ## Conversions of a document -/

namespace Xsd.Document

/-- The inline complex types of a document have no names. -/
def InlineTypesUnnamed (document : Document) : Prop :=
  ∀ schema, document.schema? = some schema → schema.InlineTypesUnnamed

/-- What a conversion gives within a limit on the depth of its calls, and the steps by which it enters
and leaves blocks: its walk with the blocks of recorders. -/
def recorded (document : Document) (options : Options) (limit : Nat) :
    Except Raised JsonSchema × List BlockStep :=
  ((Conversion.ofDocument options document).walkDocument .recorder limit document).outcome []

/-- How a conversion treats the complex types of a document. -/
structure KeepsTypes (document : Document) (options : Options) : Prop where
  /-- Within enough depth the recorded conversion gives the result of the conversion. -/
  result_eq : ∀ limit, (Registry.ofDocument document).callDepth document.nesting ≤ limit →
    (document.recorded options limit).1 = (convertWith options document).mapError .failure
  /-- After every initial part of its steps at most one complex type is open. -/
  one_open : ∀ limit before, before <+: (document.recorded options limit).2 →
    (({} : Session).after before).names.complexTypes.length ≤ 1
  /-- Every complex type is entered when its turn comes. -/
  entered : ∀ limit before name?,
    before ++ [.enter .complexType name?] <+: (document.recorded options limit).2 →
    ((({} : Session).after before).step (.enter .complexType name?)).2 = .truth true
  /-- Every named complex type has a definition with content. -/
  definitions : ∀ schema output, document.schema? = some schema →
    convertWith options document = .ok output →
    ∀ type ∈ schema.complexTypes, ∀ name, nonempty? type.name? = some name →
      ∃ definition, (output.definitionsIn options.dialect).value? name = some definition ∧
        definition.IsContent
  /-- An element with an inline complex type has its keywords and the content of that type. -/
  inline : ∀ schema element type, document.schema? = some schema →
    schema.Contains (.element element) → element.complexType? = some type →
    ∀ names, ((Conversion.ofDocument options document).complexTypeSchema names type).IsContent ∧
      ∀ name, nonempty? element.name? = some name → ∃ keywords : JsonSchema,
        (Conversion.ofDocument options document).typeKeywords? element = some keywords ∧
        (Conversion.ofDocument options document).singleSchema? names element = some
          (keywords.update ((Conversion.ofDocument options document).complexTypeSchema names type))

section KeepsTypes

variable {options : Options} {document : Document}

/-- The steps of a recorded conversion follow the law. -/
theorem recorded_opensOneType (h : document.InlineTypesUnnamed) (limit : Nat) :
    opensOneType.HoldsOf {} (document.recorded options limit).2 := by
  have hadmits := fun schema hschema => opensOneType_admitsParts (h schema hschema)
  obtain ⟨result, made, -, hrecorded, -, hlaw⟩ :=
    Conversion.recordDocument_records (c := Conversion.ofDocument options document) rfl hadmits
      limit [] rfl
  rw [recorded, hrecorded]
  exact hlaw

/-- Every named complex type has a definition, which is its content. -/
theorem isContent_definition {schema : Schema} {output : JsonSchema}
    (hschema : document.schema? = some schema) (houtput : convertWith options document = .ok output)
    {type : ComplexType} (htype : type ∈ schema.complexTypes) {name : String}
    (hname : nonempty? type.name? = some name) :
    ∃ definition, (output.definitionsIn options.dialect).value? name = some definition ∧
      definition.IsContent := by
  have hregistry : Registry.ofDocument document = Registry.ofSchema schema := by
    rw [Registry.ofDocument, hschema]
  cases hfound : (Registry.ofDocument document).complexTypes.value? name with
  | none =>
      -- The name is registered, since the type has it.
      rw [hregistry] at hfound
      exact absurd hname (value?_indexByName_eq_none_iff.1 hfound type htype)
  | some registered =>
      refine ⟨_, complexDefinitionsAgree output houtput name registered hfound, ?_⟩
      rw [Conversion.complexTypeSchema_definition (registry_ofDocument options hschema) hfound]
      exact Conversion.isContent_contentSchema ..

/-- **No complex type collapses.** In a document whose inline complex types have no names, no complex
type is refused and at most one is open at a time, so every definition and every inline type keeps its
content. -/
theorem convertWith_keepsTypes (options : Options) (document : Document)
    (h : document.InlineTypesUnnamed) : document.KeepsTypes options := by
  have hfaithful := fun limit =>
    Conversion.recordDocument_faithful (c := Conversion.ofDocument options document) rfl limit
  have hlaw : ∀ limit, opensOneType.HoldsOf {} (document.recorded options limit).2 :=
    recorded_opensOneType h
  constructor
  case result_eq =>
    intro limit hlimit
    have hcall := Conversion.callDocument_outcome (c := Conversion.ofDocument options document) {}
      hlimit
    rw [recorded, (hfaithful limit).1, Conversion.walkDocument_emitter, hcall]
    rfl
  case one_open =>
    intro limit before hbefore
    -- The law speaks of the names at the next step; after the last one nothing is open.
    obtain ⟨rest, hrest⟩ := hbefore
    cases rest with
    | nil =>
        rw [List.append_nil] at hrest
        rw [hrest, recorded, (hfaithful limit).2]
        exact Nat.zero_le 1
    | cons step rest =>
        have hstep : before ++ [step] <+: (document.recorded options limit).2 :=
          ⟨rest, by rw [← hrest, List.append_assoc]; rfl⟩
        exact (hlaw limit _ (Session.mem_trace_of_prefix {} hstep)).1
  case entered =>
    intro limit before name? hbefore
    have hopens := (hlaw limit _ (Session.mem_trace_of_prefix {} hbefore)).2 name? rfl
    rw [Session.enter_answer, hopens]
  case definitions =>
    intro schema output hschema houtput type htype name hname
    exact isContent_definition hschema houtput htype hname
  case inline =>
    intro schema element type hschema helement htype names
    have hunnamed := h schema hschema element type helement htype
    constructor
    · rw [Conversion.complexTypeSchema_eq_of_unnamed _ hunnamed]
      exact Conversion.isContent_contentSchema ..
    · intro name hname
      obtain ⟨keywords, hkeywords⟩ :=
        (Conversion.ofDocument options document).typeKeywords?_of_complexType htype
      refine ⟨keywords, hkeywords, ?_⟩
      rw [Conversion.singleSchema?_eq, hname, htype, hkeywords]
      rfl

end KeepsTypes

/-! ## A document whose declarations refer to each other in circles -/

/-- The content that only refers to the group `Links`. -/
def linkReference : Sequence := { groups := [{ ref? := some "Links" }] }

/-- An element whose inline type is that content. -/
def linkElement : Element :=
  { name? := some "link", complexType? := some { sequence? := some linkReference } }

/-- What the group `Links` stands for. -/
def linkContent : Sequence := { elements := [linkElement] }

/-- A type that extends itself by the group. -/
def loopType : ComplexType :=
  { name? := some "Loop"
    complexContent? := some { base? := some "Loop", sequence? := some linkReference } }

/-- A schema with the group, whose only element refers to it again, and the type. -/
def loopSchema : Schema :=
  { elements := [linkElement], complexTypes := [loopType],
    groups := [{ name? := some "Links", sequence? := some linkContent }] }

/-- A document with that schema. -/
def loopDocument : Document := { schema? := some loopSchema }

theorem eq_of_loopSchema_contains {component : Component} (h : loopSchema.Contains component) :
    component = .element linkElement ∨ component = .complexType { sequence? := some linkReference } ∨
      component = .complexType loopType ∨ component = .sequence linkReference ∨
      component = .sequence linkContent := by
  induction h with
  | element helement =>
      rw [List.mem_singleton.1 helement]
      simp
  | complexType htype =>
      rw [List.mem_singleton.1 htype]
      simp
  | group hgroup hsequence =>
      rw [List.mem_singleton.1 hgroup] at hsequence
      cases hsequence
      simp
  | inline _ htype ih =>
      rcases ih with h | h | h | h | h <;> cases h
      cases htype
      simp
  | own _ hsequence ih =>
      rcases ih with h | h | h | h | h <;> cases h <;> cases hsequence
      simp
  | extension _ hextension hsequence ih =>
      rcases ih with h | h | h | h | h <;> cases h <;> cases hextension
      cases hsequence
      simp
  | member _ helement ih =>
      rcases ih with h | h | h | h | h <;> cases h
      · cases helement
      · rw [List.mem_singleton.1 helement]
        simp

theorem loopDocument_inlineTypesUnnamed : loopDocument.InlineTypesUnnamed := by
  intro schema hschema element type helement htype
  cases hschema
  rcases eq_of_loopSchema_contains helement with h | h | h | h | h <;> cases h
  cases htype
  rfl

theorem convertWith_keepsTypes_loopDocument :
    loopDocument.InlineTypesUnnamed ∧ loopDocument.KeepsTypes {} :=
  ⟨loopDocument_inlineTypesUnnamed,
    convertWith_keepsTypes {} loopDocument loopDocument_inlineTypesUnnamed⟩

/-- Below the type the group is refused at the second time, but no type is. -/
example : (loopDocument.recorded {} 12).2 =
    [.enter .complexType none, .enter .group (some "Links"), .enter .complexType none,
      .enter .group (some "Links"), .leave, .leave, .leave, .leave,
      .enter .complexType (some "Loop"), .enter .group (some "Links"), .enter .complexType none,
      .enter .group (some "Links"), .leave, .leave, .leave, .leave] := by rfl

end Xsd.Document

end SchemaBridge
