import SchemaBridge.Proofs.JsonSchema.Written

/-!
# What a walk through a schema document finds

A walk through the schema of a regular document comes to a property exactly when a chain of
declarations leads there: the names of the walk are the names of the chain, the definitions that the
walk opens are those among the entries of the chain, and the property is the schema of the last
element, written with the names that are open at the end of the chain.

This module takes one step of the walk, from an element to the elements below it
(`of_offers_element`, `exists_offers_element`), which goes on inside one definition at a time
(`of_offers_typeSchema`, `offers_typeSchema_of_leads`).
-/

set_option autoImplicit false

namespace SchemaBridge

open Xsd JsonSchema

/-! ## Objects -/

/-- When no two declarations have the same name, the properties of an object are theirs. -/
theorem value?_declaredProperties {α : Type} {items : List α} {key : α → Option String}
    {declare : α → Option Declared} (hkey : ∀ a d, declare a = some d → key a = some d.name)
    (hdistinct : (items.filterMap key).Nodup) {name : String} {property : JsonSchema} :
    (declaredProperties [] (items.filterMap declare)).value? name = some property ↔
      ∃ a ∈ items, ∃ d, declare a = some d ∧ d.name = name ∧ d.schema = property := by
  -- Some items have a name and declare nothing, so the declared names are fewer.
  have hsublist : ((items.filterMap declare).map Declared.name).Sublist (items.filterMap key) := by
    clear hdistinct
    induction items with
    | nil => exact List.Sublist.refl _
    | cons a rest ih =>
        cases hdeclare : declare a with
        | none =>
            rw [List.filterMap_cons_none hdeclare]
            cases hname : key a with
            | none => rwa [List.filterMap_cons_none hname]
            | some name =>
                rw [List.filterMap_cons_some hname]
                exact ih.cons _
        | some d =>
            rw [List.filterMap_cons_some hdeclare, List.filterMap_cons_some (hkey a d hdeclare)]
            exact ih.cons_cons _
  have hnodup :
      (((items.filterMap declare).map fun d => (d.name, d.schema)).map Prod.fst).Nodup := by
    rw [List.map_map]
    exact hdistinct.sublist hsublist
  refine Iff.trans (Fields.value?_ofEntries_eq_some_iff hnodup) ?_
  simp only [List.mem_map, List.mem_filterMap, Prod.mk.injEq]
  constructor
  · rintro ⟨d, ⟨a, ha, hdeclare⟩, hname, hschema⟩
    exact ⟨a, ha, d, hdeclare, hname, hschema⟩
  · rintro ⟨a, ha, d, hdeclare, hname, hschema⟩
    exact ⟨d, ⟨a, ha, hdeclare⟩, hname, hschema⟩

theorem nonempty?_getD {name? : Option String} {name : String} (h : nonempty? name? = some name) :
    name?.getD "" = name := by
  rw [((nonempty?_eq_some_iff ..).1 h).1, Option.getD_some]

namespace Conversion

variable {c : Conversion} {schema : Schema}

/-- Only an element with a name has a schema. -/
theorem exists_name_of_presented {element : Element} {isArray : Bool} {single? : Option JsonSchema}
    {property : JsonSchema} (h : presented element isArray single? = some property) :
    ∃ name, nonempty? element.name? = some name := by
  unfold presented at h
  cases hname : nonempty? element.name? with
  | none => simp [hname] at h
  | some name => exact ⟨name, rfl⟩

/-- A declared attribute has a marked name. -/
theorem isMarked_of_mem_declaredAttributes {attributes : List Attribute} {d : Declared}
    (h : d ∈ c.declaredAttributes attributes) : IsMarked d.name := by
  obtain ⟨a, -, ha⟩ := List.mem_filterMap.1 h
  obtain ⟨name, -, ha⟩ := Option.bind_eq_some_iff.1 ha
  obtain ⟨s, -, ha⟩ := Option.bind_eq_some_iff.1 ha
  cases ha
  exact isMarked_append name

/-- Attributes hide no property of an element. -/
theorem value?_declaredProperties_append {declared : List Declared} {attributes : List Attribute}
    {earlier : Fields JsonSchema} {name : String} (hname : ¬ IsMarked name) :
    (declaredProperties earlier (declared ++ c.declaredAttributes attributes)).value? name =
      (declaredProperties earlier declared).value? name := by
  have hnone : Fields.value? (Fields.ofEntries
      ((c.declaredAttributes attributes).map fun d => (d.name, d.schema))) name = none := by
    apply Fields.value?_ofEntries_eq_none
    rintro entry hentry rfl
    obtain ⟨d, hd, rfl⟩ := List.mem_map.1 hentry
    exact hname (isMarked_of_mem_declaredAttributes hd)
  rw [declaredProperties, declaredProperties, Fields.value?_update, Fields.value?_update,
    List.map_append, Fields.value?_ofEntries_append, hnone, Option.none_or]

/-- An element of an object, below a reference that repeats or not, is written as a property. -/
def WritesAs (c : Conversion) (names : OpenNames) (element : Element) (repeats : Bool)
    (name : String) (property : JsonSchema) : Prop :=
  nonempty? element.name? = some name ∧
    c.elementSchema? names element true (c.options.forcesArray repeats) = some property

/-- **The properties of the object of a regular type are the elements that its sequence declares**,
each with the schema that it has there. -/
theorem value?_declaredElements (hc : c.registry = Registry.ofSchema schema)
    (hregular : schema.Regular) {type : ComplexType} {sequence : Sequence}
    (htype : schema.Contains (.complexType type))
    (hsequence : (contentShape type).sequence? = some sequence) {names : OpenNames} {name : String}
    {property : JsonSchema} :
    (declaredProperties [] (c.declaredElements names (some sequence))).value? name =
        some property ↔
      ∃ groups repeats element, sequence.Declares c.registry groups repeats element ∧
        names.Fresh groups ∧ c.WritesAs (names.enterAll groups) element repeats name property := by
  have hkey : ∀ (m : Member) (d : Declared),
      c.declaredMember? m (c.singleSchema? m.names m.element) = some d →
        nonempty? m.element.name? = some d.name := by
    intro m d h
    obtain ⟨s, hs, rfl⟩ := Option.map_eq_some_iff.1 h
    obtain ⟨found, hfound⟩ := exists_name_of_presented hs
    rw [hfound, nonempty?_getD hfound]
  have hdistinct := hregular.nodup_elementNames htype hsequence names
  rw [← hc] at hdistinct
  rw [declaredElements_eq, declaredBelow]
  refine Iff.trans (value?_declaredProperties hkey hdistinct) ?_
  constructor
  · rintro ⟨m, hm, d, hd, rfl, rfl⟩
    obtain ⟨groups, r, hdecl, hfresh, hnames, hrepeats⟩ :=
      Sequence.mem_membersBelow_iff.1 ⟨m.optional, hm⟩
    obtain ⟨s, hs, rfl⟩ := Option.map_eq_some_iff.1 hd
    rw [Bool.false_or] at hrepeats
    rw [← hrepeats] at hdecl
    refine ⟨groups, m.repeats, m.element, hdecl, hfresh, hkey m _ hd, ?_⟩
    rw [← hnames]
    exact hs
  · rintro ⟨groups, r, element, hdecl, hfresh, hname, hs⟩
    obtain ⟨o, hm⟩ := Sequence.mem_membersBelow_iff.2 ⟨groups, r, hdecl, hfresh, rfl, rfl⟩
    refine ⟨_, hm, _, Option.map_eq_some_iff.2 ⟨property, ?_, rfl⟩, nonempty?_getD hname, rfl⟩
    rw [Bool.false_or]
    exact hs

/-- The properties of a schema document are its top-level elements. -/
theorem value?_declaredRoots (hregular : schema.Regular) {names : OpenNames} {name : String}
    {property : JsonSchema} :
    (c.schemaDocument names schema).properties.value? name = some property ↔
      ∃ element ∈ schema.elements, nonempty? element.name? = some name ∧
        c.elementSchema? names element false false = some property := by
  have hkey : ∀ (element : Element) (d : Declared),
      ((c.elementSchema? names element false false).map fun s =>
        ({ name := element.name?.getD "", schema := s, required := element.isRequired } :
          Declared)) = some d → nonempty? element.name? = some d.name := by
    intro element d h
    obtain ⟨s, hs, rfl⟩ := Option.map_eq_some_iff.1 h
    obtain ⟨found, hfound⟩ := exists_name_of_presented hs
    rw [hfound, nonempty?_getD hfound]
  refine Iff.trans (value?_declaredProperties hkey hregular.roots_distinct) ?_
  constructor
  · rintro ⟨element, helement, d, hd, rfl, rfl⟩
    obtain ⟨s, hs, rfl⟩ := Option.map_eq_some_iff.1 hd
    exact ⟨element, helement, hkey element _ hd, hs⟩
  · rintro ⟨element, helement, hname, hs⟩
    exact ⟨element, helement, _, Option.map_eq_some_iff.2 ⟨property, hs, rfl⟩,
      nonempty?_getD hname, rfl⟩

/-! ## Definitions -/

theorem definitionsIn_schemaDocument (names : OpenNames) (schema : Schema) :
    (c.schemaDocument names schema).definitionsIn c.options.dialect =
      c.definitions names schema := by
  cases hdialect : c.options.dialect <;>
    simp [schemaDocument, definitionsIn, value?, keywords, Fields.value?, hdialect,
      Dialect.definitionsKey]

/-- A name is defined by the registered complex type, or else by a simple type that has a schema. -/
theorem value?_definitions (hc : c.registry = Registry.ofSchema schema) (names : OpenNames)
    (name : String) :
    (c.definitions names schema).value? name =
      match c.registry.complexTypes.value? name with
      | some type => some (c.complexTypeSchema names type)
      | none => ((c.writtenSimpleTypes schema).value? name).bind c.simpleTypeSchema? := by
  have hcomplex : Fields.value? (Fields.ofEntries (schema.complexTypes.filterMap fun type =>
      (nonempty? type.name?).map fun n => (n, c.complexTypeSchema names type))) name =
      (c.registry.complexTypes.value? name).map (c.complexTypeSchema names) := by
    rw [hc]
    refine Eq.trans ?_ (Fields.value?_ofEntries_map (c.complexTypeSchema names) _ name)
    rw [List.map_filterMap]
    simp only [Option.map_map, Function.comp_def]
  have hsimple : Fields.value? (Fields.ofEntries (schema.simpleTypes.filterMap fun type => do
      let n ← nonempty? type.name?
      let definition ← c.simpleTypeSchema? type
      return (n, definition))) name =
      ((c.writtenSimpleTypes schema).value? name).map fun type =>
        (c.simpleTypeSchema? type).getD .unconstrained := by
    refine Eq.trans ?_ (Fields.value?_ofEntries_map
      (fun type => (c.simpleTypeSchema? type).getD .unconstrained) _ name)
    rw [List.map_filterMap, List.filterMap_filter]
    congr 3
    funext type
    cases nonempty? type.name? with
    | none => simp
    | some n => cases hdefinition : c.simpleTypeSchema? type <;> simp [hdefinition]
  -- Complex types come last in the table and hide simple types of the same name.
  refine Eq.trans (Fields.value?_ofEntries_append _ _ name) ?_
  rw [hcomplex, hsimple]
  cases c.registry.complexTypes.value? name with
  | some type => rfl
  | none =>
      cases htype : (c.writtenSimpleTypes schema).value? name with
      | none => rfl
      | some type =>
          have hwritten := (List.mem_filter.1 (mem_of_value?_indexByName htype).1).2
          obtain ⟨definition, hdefinition⟩ := Option.isSome_iff_exists.1 hwritten
          simp only [Option.map_none, Option.none_or, Option.map_some, Option.bind_some,
            hdefinition, Option.getD_some]

/-! ## Types -/

section Types

variable {definitions : Fields JsonSchema} {names : OpenNames} {type : ComplexType}
  {opened : List String} {name : String} {property : JsonSchema}

/-- What the content of a type offers under the name of an element is offered by the base that the
type extends, or is an element of the object of the type. -/
theorem of_offers_contentSchema (hc : c.registry = Registry.ofSchema schema)
    (hregular : schema.Regular) (htype : schema.Contains (.complexType type))
    (hkey : IsElementKey name)
    (h : Offers c.options.dialect definitions (c.contentSchema names type) opened name property) :
    (∃ base extension, contentShape type = .extended base extension ∧
      Offers c.options.dialect definitions (c.typeSchema base) opened name property) ∨
    opened = [] ∧ ∃ sequence groups repeats element,
      (contentShape type).sequence? = some sequence ∧
      sequence.Declares c.registry groups repeats element ∧ names.Fresh groups ∧
      c.WritesAs (names.enterAll groups) element repeats name property := by
  -- Attributes are the only other properties, and the name is not that of one.
  have hobject : ∀ (sequence? : Option Sequence) (attributes : List Attribute),
      (contentShape type).sequence? = sequence? →
      (declaredProperties [] (c.declaredElements names sequence? ++
        c.declaredAttributes attributes)).value? name = some property →
      ∃ sequence groups repeats element, (contentShape type).sequence? = some sequence ∧
        sequence.Declares c.registry groups repeats element ∧ names.Fresh groups ∧
        c.WritesAs (names.enterAll groups) element repeats name property := by
    intro sequence? attributes hsequence hvalue
    rw [value?_declaredProperties_append hkey.1] at hvalue
    cases sequence? with
    | none => simp [declaredElements_eq, declaredBelow, Sequence.optionalMembers,
        declaredProperties, Fields.update, Fields.value?] at hvalue
    | some sequence =>
        obtain ⟨groups, repeats, element, h⟩ :=
          (value?_declaredElements hc hregular htype hsequence).1 hvalue
        exact ⟨sequence, groups, repeats, element, hsequence, h⟩
  unfold contentSchema at h
  cases hshape : contentShape type with
  | extended base extension =>
      simp only [hshape, offers_allOf, List.mem_cons, List.not_mem_nil, or_false] at h
      obtain ⟨branch, rfl | rfl, hbranch⟩ := h
      · exact Or.inl ⟨base, extension, rfl, hbranch⟩
      · obtain ⟨hopened, hvalue⟩ := offers_object.1 hbranch
        rw [hshape] at hobject
        exact Or.inr ⟨hopened, hobject _ _ rfl hvalue⟩
  | text base extension =>
      simp only [hshape] at h
      obtain ⟨-, hvalue⟩ := offers_object.1 h
      -- Simple content has a property for its text and none for elements.
      rw [← List.nil_append (c.declaredAttributes _),
        value?_declaredProperties_append hkey.1] at hvalue
      simp [declaredProperties, Fields.update, Fields.value?, Ne.symm hkey.2] at hvalue
  | plain sequence? =>
      simp only [hshape] at h
      obtain ⟨hopened, hvalue⟩ := offers_object.1 h
      rw [hshape] at hobject
      refine Or.inr ⟨hopened, hobject sequence? [] rfl ?_⟩
      rw [value?_declaredProperties_append hkey.1]
      exact hvalue

/-- The content of a type offers what the base that it extends offers. -/
theorem offers_contentSchema_of_base {base : String} {extension : Extension}
    (hshape : contentShape type = .extended base extension)
    (h : Offers c.options.dialect definitions (c.typeSchema base) opened name property) :
    Offers c.options.dialect definitions (c.contentSchema names type) opened name property := by
  unfold contentSchema
  simp only [hshape]
  exact offers_allOf.2 ⟨_, List.mem_cons_self .., h⟩

/-- The content of a type offers the elements of its object. -/
theorem offers_contentSchema_of_declares (hc : c.registry = Registry.ofSchema schema)
    (hregular : schema.Regular) (htype : schema.Contains (.complexType type))
    {sequence : Sequence} {groups : List Entry} {repeats : Bool} {element : Element}
    (hsequence : (contentShape type).sequence? = some sequence)
    (hdecl : sequence.Declares c.registry groups repeats element) (hfresh : names.Fresh groups)
    (hkey : ¬ IsMarked name)
    (h : c.WritesAs (names.enterAll groups) element repeats name property) :
    Offers c.options.dialect definitions (c.contentSchema names type) [] name property := by
  have hvalue := (value?_declaredElements hc hregular htype hsequence).2
    ⟨groups, repeats, element, hdecl, hfresh, h⟩
  unfold contentSchema
  cases hshape : contentShape type with
  | extended base extension =>
      rw [hshape, ContentShape.sequence?] at hsequence
      simp only [ContentShape.sequence?, hsequence]
      refine offers_allOf.2 ⟨_, List.mem_cons_of_mem _ (List.mem_cons_self ..), ?_⟩
      refine offers_object.2 ⟨rfl, ?_⟩
      rw [value?_declaredProperties_append hkey]
      exact hvalue
  | text base extension =>
      rw [hshape] at hsequence
      cases hsequence
  | plain sequence? =>
      rw [hshape, ContentShape.sequence?] at hsequence
      simp only [ContentShape.sequence?, hsequence]
      exact offers_object.2 ⟨rfl, hvalue⟩

end Types

/-- A type that is written as its content is no array. -/
theorem not_isArray_contentSchema (names : OpenNames) (type : ComplexType) :
    ¬ (c.contentSchema names type).IsArray := by
  unfold contentSchema
  cases contentShape type with
  | extended => exact fun h => nomatch h
  | text => simp [textObject, IsArray, object, value?, keywords, Fields.value?, Keyword.text]
  | plain => simp [objectOf, IsArray, object, value?, keywords, Fields.value?, Keyword.text]

/-- The definition of a complex type is its content inside its own name. -/
theorem complexTypeSchema_definition (hc : c.registry = Registry.ofSchema schema) {name : String}
    {type : ComplexType} (h : c.registry.complexTypes.value? name = some type) :
    c.complexTypeSchema {} type =
      c.contentSchema (({} : OpenNames).push .complexType name) type := by
  rw [hc] at h
  have hname := ((nonempty?_eq_some_iff ..).1 (Registry.mem_of_complexTypes_value? h).2).1
  rw [complexTypeSchema_eq, hname]
  rfl

/-! ## Entries of a walk -/

/-- Along entries whose definitions are opened one after another an element is written as a
property. -/
structure WritesAlong (c : Conversion) (names : OpenNames) (entries : List Entry)
    (opened : List String) (element : Element) (repeats : Bool) (name : String)
    (property : JsonSchema) : Prop where
  admits : names.Admits entries
  definitionsOf_eq : definitionsOf entries = opened
  writes : c.WritesAs (names.reopened entries) element repeats name property

section WritesAlong

variable {names : OpenNames} {entries groups : List Entry} {opened : List String}
  {element : Element} {repeats : Bool} {name : String} {property : JsonSchema}

/-- Groups open no definition. -/
theorem writesAlong_groups_iff (h : ∀ entry ∈ groups, entry.1 = .group) :
    c.WritesAlong names groups opened element repeats name property ↔
      opened = [] ∧ names.Fresh groups ∧
        c.WritesAs (names.enterAll groups) element repeats name property := by
  rw [← OpenNames.admits_groups names h, ← OpenNames.reopened_groups names h]
  constructor
  · rintro ⟨hadmits, hopened, hwrites⟩
    exact ⟨hopened.symm.trans (definitionsOf_groups h), hadmits, hwrites⟩
  · rintro ⟨rfl, hadmits, hwrites⟩
    exact ⟨hadmits, definitionsOf_groups h, hwrites⟩

/-- A definition is opened, and what follows inside it starts with its name only. -/
theorem writesAlong_definition_iff {kind : DeclarationKind} (hkind : kind ≠ .group)
    {typeName : String} :
    c.WritesAlong names ((kind, typeName) :: entries) opened element repeats name property ↔
      ∃ rest, opened = typeName :: rest ∧
        c.WritesAlong (({} : OpenNames).push kind typeName) entries rest element repeats name
          property := by
  constructor
  · rintro ⟨hadmits, hopened, hwrites⟩
    rw [OpenNames.admits_definition names hkind] at hadmits
    rw [OpenNames.reopened_definition names hkind] at hwrites
    rw [definitionsOf_definition hkind] at hopened
    exact ⟨_, hopened.symm, hadmits, rfl, hwrites⟩
  · rintro ⟨rest, rfl, hadmits, rfl, hwrites⟩
    refine ⟨?_, definitionsOf_definition hkind _ _, ?_⟩
    · rw [OpenNames.admits_definition names hkind]
      exact hadmits
    · rw [OpenNames.reopened_definition names hkind]
      exact hwrites

/-- What is open around a reference to a definition does not matter inside. -/
theorem TypeLeads.writesAlong_iff {typeName : String} {last : Element} {below : Bool}
    (h : c.TypeLeads schema typeName entries below last) :
    c.WritesAlong names entries opened element repeats name property ↔
      c.WritesAlong {} entries opened element repeats name property := by
  obtain ⟨kind, rest, hkind, rfl⟩ := h.exists_cons
  rw [writesAlong_definition_iff hkind, writesAlong_definition_iff hkind]

end WritesAlong

/-- **What a type name offers** under the name of an element is an element to which its definition
leads, along entries that the guard admits. -/
theorem of_offers_typeSchema (hc : c.registry = Registry.ofSchema schema)
    (hregular : schema.Regular) {typeName name : String} {opened : List String}
    {property : JsonSchema} (hkey : IsElementKey name)
    (h : Offers c.options.dialect (c.definitions {} schema) (c.typeSchema typeName) opened name
      property) :
    c.typeMap.isPrimitive typeName = false ∧
      ∃ entries repeats element, c.TypeLeads schema typeName entries repeats element ∧
        c.WritesAlong {} entries opened element repeats name property := by
  -- A step into a definition takes its name off the opened ones.
  induction opened generalizing typeName with
  | nil =>
      obtain ⟨-, definition, rest, hopened, -⟩ := offers_typeSchema_iff.1 h
      cases hopened
  | cons first tail ih =>
      obtain ⟨hprimitive, definition, rest, hopened, hvalue, h⟩ := offers_typeSchema_iff.1 h
      cases hopened
      refine ⟨hprimitive, ?_⟩
      rw [value?_definitions hc] at hvalue
      -- The definition is that of a complex type or of a simple type.
      cases htype : c.registry.complexTypes.value? first with
      | some type =>
          simp only [htype, Option.some.injEq] at hvalue
          rw [← hvalue, complexTypeSchema_definition hc htype] at h
          have hcontains : schema.Contains (.complexType type) :=
            .of_complexTypes_value? (hc ▸ htype)
          rcases of_offers_contentSchema hc hregular hcontains hkey h with
            ⟨base, extension, hshape, h⟩ |
            ⟨rfl, sequence, groups, repeats, element, hsequence, hdecl, hwrites⟩
          · obtain ⟨hbase, entries, repeats, element, hleads, halong⟩ := ih h
            refine ⟨_, repeats, element, .base htype hshape hbase hleads, ?_⟩
            exact (writesAlong_definition_iff (by decide)).2
              ⟨_, rfl, hleads.writesAlong_iff.2 halong⟩
          · refine ⟨_, repeats, element, .own htype hsequence hdecl, ?_⟩
            exact (writesAlong_definition_iff (by decide)).2
              ⟨_, rfl, (writesAlong_groups_iff hdecl.eq_group).2 ⟨rfl, hwrites⟩⟩
      | none =>
          simp only [htype] at hvalue
          obtain ⟨type, hwritten, hschema⟩ := Option.bind_eq_some_iff.1 hvalue
          obtain ⟨itemName, hitem, h⟩ := (offers_simpleTypeSchema?_iff hschema).1 h
          obtain ⟨hitems, entries, repeats, element, hleads, halong⟩ := ih h
          refine ⟨_, repeats, element, .items htype hwritten hitem hitems hleads, ?_⟩
          exact (writesAlong_definition_iff (by decide)).2
            ⟨_, rfl, hleads.writesAlong_iff.2 halong⟩

/-- A type name offers every element to which its definition leads. -/
theorem offers_typeSchema_of_leads (hc : c.registry = Registry.ofSchema schema)
    (hregular : schema.Regular) {typeName name : String} {entries : List Entry}
    {opened : List String} {repeats : Bool} {element : Element} {property : JsonSchema}
    (hleads : c.TypeLeads schema typeName entries repeats element)
    (hprimitive : c.typeMap.isPrimitive typeName = false) (hkey : ¬ IsMarked name)
    (h : c.WritesAlong {} entries opened element repeats name property) :
    Offers c.options.dialect (c.definitions {} schema) (c.typeSchema typeName) opened name
      property := by
  induction hleads generalizing opened with
  | @own typeName type sequence groups repeats element htype hsequence hdecl =>
      obtain ⟨rest, rfl, hinner⟩ := (writesAlong_definition_iff (by decide)).1 h
      obtain ⟨rfl, hfresh, hwrites⟩ := (writesAlong_groups_iff hdecl.eq_group).1 hinner
      have hcontains : schema.Contains (.complexType type) := .of_complexTypes_value? (hc ▸ htype)
      refine offers_typeSchema_iff.2 ⟨hprimitive, c.complexTypeSchema {} type, [], rfl, ?_, ?_⟩
      · rw [value?_definitions hc, htype]
      · rw [complexTypeSchema_definition hc htype]
        exact offers_contentSchema_of_declares hc hregular hcontains hsequence hdecl hfresh hkey
          hwrites
  | @base typeName base type extension entries repeats element htype hshape hbase hleads ih =>
      obtain ⟨rest, rfl, hinner⟩ := (writesAlong_definition_iff (by decide)).1 h
      refine offers_typeSchema_iff.2 ⟨hprimitive, c.complexTypeSchema {} type, rest, rfl, ?_, ?_⟩
      · rw [value?_definitions hc, htype]
      · rw [complexTypeSchema_definition hc htype]
        exact offers_contentSchema_of_base hshape (ih hbase (hleads.writesAlong_iff.1 hinner))
  | @items typeName itemName type entries repeats element hcomplex htype hitem hitems hleads ih =>
      obtain ⟨rest, rfl, hinner⟩ := (writesAlong_definition_iff (by decide)).1 h
      obtain ⟨definition, hdefinition⟩ :=
        Option.isSome_iff_exists.1 (isSome_simpleTypeSchema?_of_itemName? (c := c) hitem)
      refine offers_typeSchema_iff.2 ⟨hprimitive, definition, rest, rfl, ?_, ?_⟩
      · rw [value?_definitions hc, hcomplex]
        simp only [htype, Option.bind_some, hdefinition]
      · exact (offers_simpleTypeSchema?_iff hdefinition).2
          ⟨itemName, hitem, ih hitems (hleads.writesAlong_iff.1 hinner)⟩

/-! ## Elements -/

section Elements

variable {names : OpenNames} {outer : Element}

/-- An element with an inline complex type is written as the content of that type. -/
theorem singleSchema?_of_complexType (hregular : schema.Regular)
    (houter : schema.Contains (.element outer)) {name : String}
    (hname : nonempty? outer.name? = some name) {type : ComplexType}
    (htype : outer.complexType? = some type) :
    c.singleSchema? names outer = some (c.contentSchema names type) := by
  obtain ⟨hsimple, htypeName⟩ := hregular.of_complexType houter htype
  have hupdate : JsonSchema.unconstrained.update (c.contentSchema names type) =
      c.contentSchema names type := by
    unfold contentSchema
    cases contentShape type <;> rfl
  have hcontent : c.complexTypeSchema names type = c.contentSchema names type :=
    c.complexTypeSchema_eq_of_unnamed (hregular.inline_unnamed outer type houter htype)
  simp only [singleSchema?_eq, hname, typeKeywords?, hsimple, htypeName, htype, Option.map_some,
    hcontent, hupdate]

theorem singleSchema?_of_simpleType {name : String} (hname : nonempty? outer.name? = some name)
    (hinline : outer.complexType? = none) {type : SimpleType}
    (hsimple : outer.simpleType? = some type) :
    c.singleSchema? names outer = c.simpleTypeSchema? type := by
  cases hschema : c.simpleTypeSchema? type <;>
    simp [singleSchema?_eq, hname, typeKeywords?, hsimple, hinline, hschema]

theorem singleSchema?_of_typeName {name : String} (hname : nonempty? outer.name? = some name)
    (hinline : outer.complexType? = none) (hsimple : outer.simpleType? = none) {typeName : String}
    (htypeName : nonempty? outer.typeName? = some typeName) :
    c.singleSchema? names outer = some (c.namedSchema typeName) := by
  rw [singleSchema?_eq, hname, typeKeywords?, hsimple, htypeName, hinline]
  rfl

theorem singleSchema?_of_untyped {name : String} (hname : nonempty? outer.name? = some name)
    (hinline : outer.complexType? = none) (hsimple : outer.simpleType? = none)
    (htypeName : nonempty? outer.typeName? = none) :
    c.singleSchema? names outer = some .unconstrained := by
  rw [singleSchema?_eq, hname, typeKeywords?, hsimple, htypeName, hinline]
  rfl

/-- What a single occurrence of an element is written as in a regular schema, where an element has
one kind of type at most. -/
inductive OccurrenceOf (c : Conversion) (names : OpenNames) (outer : Element) :
    JsonSchema → Prop where
  | complexType {type : ComplexType} (htype : outer.complexType? = some type) :
      OccurrenceOf c names outer (c.contentSchema names type)
  | simpleType {type : SimpleType} {s : JsonSchema} (hinline : outer.complexType? = none)
      (hsimple : outer.simpleType? = some type) (h : c.simpleTypeSchema? type = some s) :
      OccurrenceOf c names outer s
  | typeName {typeName : String} (hinline : outer.complexType? = none)
      (hsimple : outer.simpleType? = none) (hname : nonempty? outer.typeName? = some typeName) :
      OccurrenceOf c names outer (c.namedSchema typeName)
  /-- An element without a type may hold anything. -/
  | untyped : OccurrenceOf c names outer .unconstrained

theorem occurrenceOf_of_singleSchema? (hregular : schema.Regular)
    (houter : schema.Contains (.element outer)) {name : String}
    (hname : nonempty? outer.name? = some name) {single : JsonSchema}
    (h : c.singleSchema? names outer = some single) : c.OccurrenceOf names outer single := by
  cases htype : outer.complexType? with
  | some type =>
      rw [singleSchema?_of_complexType hregular houter hname htype, Option.some.injEq] at h
      exact h ▸ .complexType htype
  | none =>
      cases hsimple : outer.simpleType? with
      | some type =>
          rw [singleSchema?_of_simpleType hname htype hsimple] at h
          exact .simpleType htype hsimple h
      | none =>
          cases htypeName : nonempty? outer.typeName? with
          | some typeName =>
              rw [singleSchema?_of_typeName hname htype hsimple htypeName, Option.some.injEq] at h
              exact h ▸ .typeName htype hsimple htypeName
          | none =>
              rw [singleSchema?_of_untyped hname htype hsimple htypeName, Option.some.injEq] at h
              exact h ▸ .untyped

/-- An array leads where a single occurrence does. -/
theorem offers_presented_iff {definitions : Fields JsonSchema} {isArray : Bool}
    {single? : Option JsonSchema} {outerProperty property : JsonSchema} {opened : List String}
    {name : String} (h : presented outer isArray single? = some outerProperty) :
    Offers c.options.dialect definitions outerProperty opened name property ↔
      ∃ single, single? = some single ∧
        Offers c.options.dialect definitions single opened name property := by
  unfold presented at h
  cases hname : nonempty? outer.name? with
  | none => simp [hname] at h
  | some found =>
      simp only [hname] at h
      cases isArray with
      | false =>
          simp only [Bool.false_eq_true, if_false] at h
          simp [h]
      | true =>
          simp only [if_true, Option.some.injEq] at h
          rw [← h, offers_array]
          cases single? with
          | none => simp [not_offers_unconstrained]
          | some single => simp

/-- **What the schema of an element offers** under the name of an element is an element to which it
leads. -/
theorem of_offers_element (hc : c.registry = Registry.ofSchema schema) (hregular : schema.Regular)
    (houter : schema.Contains (.element outer)) {inSequence forceArray : Bool}
    {outerProperty property : JsonSchema} {opened : List String} {name : String}
    (hkey : IsElementKey name)
    (houterProperty : c.elementSchema? names outer inSequence forceArray = some outerProperty)
    (h : Offers c.options.dialect (c.definitions {} schema) outerProperty opened name property) :
    ∃ entries repeats element, c.Leads schema outer entries repeats element ∧
      c.WritesAlong names entries opened element repeats name property := by
  obtain ⟨found, hname⟩ := exists_name_of_presented houterProperty
  obtain ⟨single, hsingle, h⟩ := (offers_presented_iff houterProperty).1 h
  cases occurrenceOf_of_singleSchema? hregular houter hname hsingle with
  | complexType htype =>
      rcases of_offers_contentSchema hc hregular (.inline houter htype) hkey h with
        ⟨base, extension, hshape, h⟩ |
        ⟨rfl, sequence, groups, repeats, element, hsequence, hdecl, hwrites⟩
      · obtain ⟨hbase, entries, repeats, element, hleads, halong⟩ :=
          of_offers_typeSchema hc hregular hkey h
        exact ⟨entries, repeats, element, .base htype hshape hbase hleads,
          hleads.writesAlong_iff.2 halong⟩
      · exact ⟨groups, repeats, element, .own htype hsequence hdecl,
          (writesAlong_groups_iff hdecl.eq_group).2 ⟨rfl, hwrites⟩⟩
  | simpleType hinline hsimple hschema =>
      obtain ⟨itemName, hitem, h⟩ := (offers_simpleTypeSchema?_iff hschema).1 h
      obtain ⟨hprimitive, entries, repeats, element, hleads, halong⟩ :=
        of_offers_typeSchema hc hregular hkey h
      exact ⟨entries, repeats, element, .items hinline hsimple hitem hprimitive hleads,
        hleads.writesAlong_iff.2 halong⟩
  | typeName hinline hsimple htypeName =>
      rw [offers_namedSchema_iff] at h
      obtain ⟨hprimitive, entries, repeats, element, hleads, halong⟩ :=
        of_offers_typeSchema hc hregular hkey h
      exact ⟨entries, repeats, element, .named hinline hsimple htypeName hprimitive hleads,
        hleads.writesAlong_iff.2 halong⟩
  | untyped => exact absurd h not_offers_unconstrained

/-- The schema of an element offers every element to which it leads. -/
theorem exists_offers_element (hc : c.registry = Registry.ofSchema schema)
    (hregular : schema.Regular) (houter : schema.Contains (.element outer)) {name : String}
    {entries : List Entry} {opened : List String} {repeats : Bool} {element : Element}
    {property : JsonSchema} {outerName : String}
    (hname : nonempty? outer.name? = some outerName)
    (hleads : c.Leads schema outer entries repeats element) (hkey : ¬ IsMarked name)
    (h : c.WritesAlong names entries opened element repeats name property) :
    ∃ single, c.singleSchema? names outer = some single ∧
      Offers c.options.dialect (c.definitions {} schema) single opened name property := by
  cases hleads with
  | own htype hsequence hdecl =>
      obtain ⟨rfl, hfresh, hwrites⟩ := (writesAlong_groups_iff hdecl.eq_group).1 h
      exact ⟨_, singleSchema?_of_complexType hregular houter hname htype,
        offers_contentSchema_of_declares hc hregular (.inline houter htype) hsequence hdecl hfresh
          hkey hwrites⟩
  | base htype hshape hbase hleads =>
      have hoffers := offers_typeSchema_of_leads hc hregular hleads hbase hkey
        (hleads.writesAlong_iff.1 h)
      exact ⟨_, singleSchema?_of_complexType hregular houter hname htype,
        offers_contentSchema_of_base hshape hoffers⟩
  | named hinline hsimple htypeName hprimitive hleads =>
      have hoffers := offers_typeSchema_of_leads hc hregular hleads hprimitive hkey
        (hleads.writesAlong_iff.1 h)
      exact ⟨_, singleSchema?_of_typeName hname hinline hsimple htypeName,
        offers_namedSchema_iff.2 hoffers⟩
  | @items type itemName _ _ _ hinline hsimple hitem hprimitive hleads =>
      have hoffers := offers_typeSchema_of_leads hc hregular hleads hprimitive hkey
        (hleads.writesAlong_iff.1 h)
      obtain ⟨single, hsingle⟩ :=
        Option.isSome_iff_exists.1 (isSome_simpleTypeSchema?_of_itemName? (c := c) hitem)
      refine ⟨single, ?_, (offers_simpleTypeSchema?_iff hsingle).2 ⟨itemName, hitem, hoffers⟩⟩
      rw [singleSchema?_of_simpleType hname hinline hsimple, hsingle]

end Elements

end Conversion

end SchemaBridge
