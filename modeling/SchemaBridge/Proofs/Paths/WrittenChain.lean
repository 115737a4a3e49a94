import SchemaBridge.Proofs.JsonSchema.Reach
import SchemaBridge.Proofs.Paths.Chain

/-!
# Chains that a converted schema writes

A written chain goes from element to element as the schemas of a conversion do
(`Conversion.Leads`). Along it a reader of the schema document comes to the property of its last
element, and every walk of a reader along the names of elements is such a chain
(`reaches_of_chain`, `exists_chain_of_reaches`).

Written chains and the chains whose paths are derived differ in two ways. A chain of declarations
may take an element from an extension without a base, which the conversion does not write
(`Schema.BasesNamed` excludes it), and a written chain may go through a list whose items have a
complex type, whose elements are declared nowhere (`Schema.ListsAreSimple` excludes it). Otherwise
they have the same links (`leads_of_declares`, `declares_of_leads`).
-/

set_option autoImplicit false

namespace SchemaBridge

open Xsd JsonSchema

/-- A chain whose links are each written by the conversion of the link before. -/
abbrev WrittenChain (c : Conversion) (schema : Schema) :
    List String → List Entry → Element → Bool → Bool → Prop :=
  Chain (c.Leads schema) schema

theorem Chain.elements_ne_nil {leads : Element → List Entry → Bool → Element → Prop}
    {schema : Schema} {path : List String} {entries : List Entry} {element : Element}
    {inSequence repeats : Bool} (h : Chain leads schema path entries element inSequence repeats) :
    schema.elements ≠ [] := by
  induction h with
  | root helement => exact List.ne_nil_of_mem helement
  | next _ _ _ ih => exact ih

/-- A chain of one kind is one of another when its links are, at elements of the schema. -/
theorem Chain.mono {leads other : Element → List Entry → Bool → Element → Prop} {schema : Schema}
    (hcontains : ∀ outer entries repeats element, schema.Contains (.element outer) →
      leads outer entries repeats element → schema.Contains (.element element))
    (h : ∀ outer entries repeats element, schema.Contains (.element outer) →
      leads outer entries repeats element → other outer entries repeats element)
    {path : List String} {entries : List Entry} {element : Element} {inSequence repeats : Bool}
    (hchain : Chain leads schema path entries element inSequence repeats) :
    schema.Contains (.element element) ∧
      Chain other schema path entries element inSequence repeats := by
  induction hchain with
  | root helement hname => exact ⟨.element helement, .root helement hname⟩
  | next _ hleads hname ih =>
      exact ⟨hcontains _ _ _ _ ih.1 hleads, .next ih.2 (h _ _ _ _ ih.1 hleads) hname⟩

namespace Xsd.Schema

/-- An extension that adds elements names its base. -/
def BasesNamed (schema : Schema) : Prop :=
  ∀ type extension, schema.Contains (.complexType type) → type.complexContent? = some extension →
    extension.sequence?.isSome → (nonempty? extension.base?).isSome

/-- No list has items of a complex type. -/
structure ListsAreSimple (schema : Schema) : Prop where
  inline : ∀ element type, schema.Contains (.element element) → element.simpleType? = some type →
    ∀ itemName, type.itemName? = some itemName →
      (Registry.ofSchema schema).complexTypes.value? itemName = none
  named : ∀ type ∈ schema.simpleTypes, ∀ itemName, type.itemName? = some itemName →
    (Registry.ofSchema schema).complexTypes.value? itemName = none

/-- No element of an object has a name for attributes. -/
def Unmarked (schema : Schema) : Prop :=
  ∀ type sequence groups repeats element name, schema.Contains (.complexType type) →
    (contentShape type).sequence? = some sequence →
    sequence.Declares (Registry.ofSchema schema) groups repeats element →
    nonempty? element.name? = some name → ¬ IsMarked name

theorem BasesNamed.sequence?_contentShape {schema : Schema} (hbases : schema.BasesNamed)
    {type : ComplexType} {extension : Extension} {sequence : Sequence}
    (htype : schema.Contains (.complexType type))
    (hextension : type.complexContent? = some extension)
    (hsequence : extension.sequence? = some sequence) :
    (contentShape type).sequence? = some sequence := by
  obtain ⟨base, hbase⟩ := Option.isSome_iff_exists.1
    (hbases type extension htype hextension (by rw [hsequence, Option.isSome_some]))
  rw [(contentShape_eq_extended_iff ..).2 ⟨hextension, hbase⟩]
  exact hsequence

end Xsd.Schema

namespace Conversion

variable {c : Conversion} {schema : Schema}

/-- An element to which a definition leads is declared in the object of some type. -/
theorem TypeLeads.exists_declares (hc : c.registry = Registry.ofSchema schema) {name : String}
    {entries : List Entry} {repeats : Bool} {element : Element}
    (h : c.TypeLeads schema name entries repeats element) :
    ∃ type sequence groups, schema.Contains (.complexType type) ∧
      (contentShape type).sequence? = some sequence ∧
      sequence.Declares (Registry.ofSchema schema) groups repeats element := by
  induction h with
  | own htype hsequence hdecl =>
      exact ⟨_, _, _, .of_complexTypes_value? (hc ▸ htype), hsequence, hc ▸ hdecl⟩
  | base _ _ _ _ ih => exact ih
  | items _ _ _ _ _ ih => exact ih

theorem Leads.exists_declares (hc : c.registry = Registry.ofSchema schema) {outer element : Element}
    {entries : List Entry} {repeats : Bool} (houter : schema.Contains (.element outer))
    (h : c.Leads schema outer entries repeats element) :
    ∃ type sequence groups, schema.Contains (.complexType type) ∧
      (contentShape type).sequence? = some sequence ∧
      sequence.Declares (Registry.ofSchema schema) groups repeats element := by
  cases h with
  | own htype hsequence hdecl => exact ⟨_, _, _, .inline houter htype, hsequence, hc ▸ hdecl⟩
  | base _ _ _ h => exact h.exists_declares hc
  | named _ _ _ _ h => exact h.exists_declares hc
  | items _ _ _ _ h => exact h.exists_declares hc

theorem Leads.contains (hc : c.registry = Registry.ofSchema schema) {outer element : Element}
    {entries : List Entry} {repeats : Bool} (houter : schema.Contains (.element outer))
    (h : c.Leads schema outer entries repeats element) : schema.Contains (.element element) := by
  obtain ⟨type, sequence, groups, htype, hsequence, hdecl⟩ := h.exists_declares hc houter
  exact .of_sequence_declares (.of_contentShape htype hsequence) hdecl

/-! ## Links that are both declared and written -/

/-- A definition leads to what its type declares, when extensions that add elements name a base. -/
theorem typeLeads_of_declares (hc : c.registry = Registry.ofSchema schema)
    (hmap : c.typeMap = TypeMap.builtin) (hregular : schema.Regular) (hbases : schema.BasesNamed)
    {name : String} {type : ComplexType} {entries : List Entry} {repeats : Bool} {element : Element}
    (htype : c.registry.complexTypes.value? name = some type)
    (h : type.Declares c.registry entries repeats element) :
    c.TypeLeads schema name ((.complexType, name) :: entries) repeats element := by
  have hcontains : ∀ {name type}, c.registry.complexTypes.value? name = some type →
      schema.Contains (.complexType type) := fun h => .of_complexTypes_value? (hc ▸ h)
  induction h generalizing name with
  | own hsequence hdecl =>
      refine .own htype ?_ hdecl
      rw [hregular.contentShape_of_sequence (hcontains htype) hsequence]
      rfl
  | extension hextension hsequence hdecl =>
      exact .own htype (hbases.sequence?_contentShape (hcontains htype) hextension hsequence) hdecl
  | @base type base extension baseName entries repeats element hextension hname hbase _ ih =>
      refine .base htype ((contentShape_eq_extended_iff ..).2 ⟨hextension, hname⟩) ?_ (ih hbase)
      rw [hmap]
      exact hregular.isPrimitive_eq_false (hc ▸ hbase)

/-- **What an element declares the conversion writes**, when extensions that add elements name a
base. -/
theorem leads_of_declares (hc : c.registry = Registry.ofSchema schema)
    (hmap : c.typeMap = TypeMap.builtin) (hregular : schema.Regular) (hbases : schema.BasesNamed)
    {outer element : Element} {entries : List Entry} {repeats : Bool}
    (houter : schema.Contains (.element outer))
    (h : outer.Declares c.registry entries repeats element) :
    c.Leads schema outer entries repeats element := by
  cases h with
  | @inline type entries _ _ htype hdecl =>
      -- An inline type has no name, so it is no entry.
      have hentry : type.entry = [] := by
        rw [ComplexType.entry, hregular.inline_unnamed outer type houter htype]
        rfl
      rw [hentry, List.nil_append]
      have hcontains : schema.Contains (.complexType type) := .inline houter htype
      cases hdecl with
      | own hsequence hdecl =>
          refine .own htype ?_ hdecl
          rw [hregular.contentShape_of_sequence hcontains hsequence]
          rfl
      | extension hextension hsequence hdecl =>
          exact .own htype (hbases.sequence?_contentShape hcontains hextension hsequence) hdecl
      | base hextension hname hbase hdecl =>
          refine .base htype ((contentShape_eq_extended_iff ..).2 ⟨hextension, hname⟩) ?_
            (typeLeads_of_declares hc hmap hregular hbases hbase hdecl)
          rw [hmap]
          exact hregular.isPrimitive_eq_false (hc ▸ hbase)
  | named hinline hname htype hdecl =>
      refine .named hinline (hregular.of_typeName houter hname).1 hname ?_
        (typeLeads_of_declares hc hmap hregular hbases htype hdecl)
      rw [hmap]
      exact hregular.isPrimitive_eq_false (hc ▸ htype)

/-- A definition leads only to what its type declares, when no list has items of a complex type. -/
theorem declares_of_typeLeads (hc : c.registry = Registry.ofSchema schema)
    (hlists : schema.ListsAreSimple) {name : String} {entries : List Entry} {repeats : Bool}
    {element : Element} (h : c.TypeLeads schema name entries repeats element) :
    ∃ type rest, c.registry.complexTypes.value? name = some type ∧
      entries = (.complexType, name) :: rest ∧ type.Declares c.registry rest repeats element := by
  induction h with
  | @own name type sequence groups repeats element htype hsequence hdecl =>
      refine ⟨type, groups, htype, rfl, ?_⟩
      rcases sequence?_contentShape type hsequence with hown | ⟨extension, hextension, hsequence⟩
      · exact .own hown hdecl
      · exact .extension hextension hsequence hdecl
  | @base name base type extension entries repeats element htype hshape _ _ ih =>
      obtain ⟨baseType, rest, hbase, rfl, hdecl⟩ := ih
      obtain ⟨hextension, hname⟩ := (contentShape_eq_extended_iff ..).1 hshape
      exact ⟨type, _, htype, rfl, .base hextension hname hbase hdecl⟩
  | items _ htype hitem _ _ ih =>
      -- The items of a list would have a complex type here.
      obtain ⟨itemType, -, hcomplex, -⟩ := ih
      have hmem := (List.mem_filter.1 (mem_of_value?_indexByName htype).1).1
      rw [hc, hlists.named _ hmem _ hitem] at hcomplex
      cases hcomplex

/-- **The conversion writes only what an element declares**, when no list has items of a complex
type. -/
theorem declares_of_leads (hc : c.registry = Registry.ofSchema schema) (hregular : schema.Regular)
    (hlists : schema.ListsAreSimple) {outer element : Element} {entries : List Entry}
    {repeats : Bool} (houter : schema.Contains (.element outer))
    (h : c.Leads schema outer entries repeats element) :
    outer.Declares c.registry entries repeats element := by
  have hinline : ∀ {type entries}, outer.complexType? = some type →
      type.Declares c.registry entries repeats element →
      outer.Declares c.registry entries repeats element := by
    intro type entries htype hdecl
    have hentry : type.entry = [] := by
      rw [ComplexType.entry, hregular.inline_unnamed outer type houter htype]
      rfl
    rw [← List.nil_append entries, ← hentry]
    exact .inline htype hdecl
  cases h with
  | own htype hsequence hdecl =>
      rcases sequence?_contentShape _ hsequence with hown | ⟨extension, hextension, hsequence⟩
      · exact hinline htype (.own hown hdecl)
      · exact hinline htype (.extension hextension hsequence hdecl)
  | base htype hshape _ h =>
      obtain ⟨baseType, rest, hbase, rfl, hdecl⟩ := declares_of_typeLeads hc hlists h
      obtain ⟨hextension, hname⟩ := (contentShape_eq_extended_iff ..).1 hshape
      exact hinline htype (.base hextension hname hbase hdecl)
  | named hnone _ hname _ h =>
      obtain ⟨type, rest, htype, rfl, hdecl⟩ := declares_of_typeLeads hc hlists h
      exact .named hnone hname htype hdecl
  | items _ hsimple hitem _ h =>
      obtain ⟨itemType, -, hcomplex, -⟩ := declares_of_typeLeads hc hlists h
      rw [hc, hlists.inline _ _ houter hsimple _ hitem] at hcomplex
      cases hcomplex

/-! ## Chains without groups -/

/-- Without groups a sequence declares its own elements only. -/
theorem eq_nil_of_declares (hc : c.registry = Registry.ofSchema schema)
    (hgroups : schema.groups = []) {sequence : Sequence} {entries : List Entry} {repeats : Bool}
    {element : Element}
    (h : sequence.Declares c.registry entries repeats element) : entries = [] := by
  cases h with
  | own => rfl
  | group _ _ hcontent _ =>
      obtain ⟨group, hgroup, -⟩ := Option.bind_eq_some_iff.1 hcontent
      rw [hc] at hgroup
      have hmem := (Registry.mem_of_groups_value? hgroup).1
      rw [hgroups] at hmem
      cases hmem

theorem TypeLeads.ne_group (hc : c.registry = Registry.ofSchema schema)
    (hgroups : schema.groups = []) {name : String} {entries : List Entry} {repeats : Bool}
    {element : Element} (h : c.TypeLeads schema name entries repeats element) :
    ∀ entry ∈ entries, entry.1 ≠ .group := by
  induction h with
  | own _ _ hdecl => simp [eq_nil_of_declares hc hgroups hdecl]
  | base _ _ _ _ ih => simpa using ih
  | items _ _ _ _ _ ih => simpa using ih

theorem Leads.ne_group (hc : c.registry = Registry.ofSchema schema) (hgroups : schema.groups = [])
    {outer element : Element} {entries : List Entry} {repeats : Bool}
    (h : c.Leads schema outer entries repeats element) : ∀ entry ∈ entries, entry.1 ≠ .group := by
  cases h with
  | own _ _ hdecl => simp [eq_nil_of_declares hc hgroups hdecl]
  | base _ _ _ h => exact h.ne_group hc hgroups
  | named _ _ _ _ h => exact h.ne_group hc hgroups
  | items _ _ _ _ h => exact h.ne_group hc hgroups

/-- Without groups a written chain enters definitions only. -/
theorem ne_group_of_writtenChain (hc : c.registry = Registry.ofSchema schema)
    (hgroups : schema.groups = []) {path : List String} {entries : List Entry} {element : Element}
    {inSequence repeats : Bool}
    (h : WrittenChain c schema path entries element inSequence repeats) :
    ∀ entry ∈ entries, entry.1 ≠ .group := by
  induction h with
  | root => simp
  | next _ hleads _ ih =>
      rw [List.forall_mem_append]
      exact ⟨ih, hleads.ne_group hc hgroups⟩

/-! ## Walks are written chains -/

theorem contains_of_writtenChain (hc : c.registry = Registry.ofSchema schema) {path : List String}
    {entries : List Entry} {element : Element} {inSequence repeats : Bool}
    (h : WrittenChain c schema path entries element inSequence repeats) :
    schema.Contains (.element element) := by
  induction h with
  | root helement => exact .element helement
  | next _ hleads _ ih => exact hleads.contains hc ih

theorem unmarked_of_writtenChain (hc : c.registry = Registry.ofSchema schema)
    (hunmarked : schema.Unmarked) {path : List String} {entries : List Entry} {element : Element}
    {inSequence repeats : Bool}
    (h : WrittenChain c schema path entries element inSequence repeats) :
    ∀ name ∈ path.tail, ¬ IsMarked name := by
  induction h with
  | root => simp
  | @next path entries below outer element inSequence repeated repeats name hchain hleads hname
      ih =>
      rw [List.tail_append_of_ne_nil hchain.path_ne_nil, List.forall_mem_append]
      refine ⟨ih, fun other hother => ?_⟩
      rw [List.mem_singleton.1 hother]
      obtain ⟨type, sequence, groups, htype, hsequence, hdecl⟩ :=
        hleads.exists_declares hc (contains_of_writtenChain hc hchain)
      exact hunmarked type sequence groups repeats element name htype hsequence hdecl hname

/-- **A walk along the names of elements is a written chain** to the element whose schema it comes
to. -/
theorem exists_chain_of_reaches (hc : c.registry = Registry.ofSchema schema)
    (hregular : schema.Regular) {path opened : List String} {property : JsonSchema}
    (h : Reaches c.options.dialect (c.schemaDocument {} schema) path opened property)
    (hkeys : ∀ name ∈ path, IsElementKey name) :
    ∃ entries element inSequence repeats,
      WrittenChain c schema path entries element inSequence repeats ∧
      ({} : OpenNames).Admits entries ∧ definitionsOf entries = opened ∧
      c.elementSchema? (({} : OpenNames).reopened entries) element inSequence
        (c.options.forcesArray repeats) = some property := by
  induction h with
  | root h =>
      obtain ⟨element, helement, hname, hproperty⟩ := (value?_declaredRoots hregular).1 h
      exact ⟨[], element, false, false, .root helement hname, trivial, rfl, hproperty⟩
  | @next path opened more outer object property name hreach hwalk h ih =>
      -- The chain so far ends at the element whose schema the walk stands at.
      rw [List.forall_mem_append] at hkeys
      obtain ⟨entries, element, inSequence, repeats, hchain, hadmits, hopened, houter⟩ :=
        ih hkeys.1
      rw [definitionsIn_schemaDocument] at hwalk
      obtain ⟨below, repeats', inner, hleads, halong⟩ :=
        of_offers_element hc hregular (contains_of_writtenChain hc hchain)
          (hkeys.2 name (List.mem_singleton_self name)) houter ⟨object, hwalk, h⟩
      refine ⟨entries ++ below, inner, true, repeats', .next hchain hleads halong.writes.1,
        (OpenNames.admits_append ..).2 ⟨hadmits, halong.admits⟩, ?_, ?_⟩
      · rw [definitionsOf_append, hopened, halong.definitionsOf_eq]
      · rw [OpenNames.reopened_append]
        exact halong.writes.2

/-- **A written chain is a walk**, when no element below the top has a name for attributes. -/
theorem reaches_of_chain (hc : c.registry = Registry.ofSchema schema) (hregular : schema.Regular)
    {path : List String} {entries : List Entry} {element : Element} {inSequence repeats : Bool}
    (hchain : WrittenChain c schema path entries element inSequence repeats)
    (hadmits : ({} : OpenNames).Admits entries) (hkeys : ∀ name ∈ path.tail, ¬ IsMarked name)
    {property : JsonSchema}
    (h : c.elementSchema? (({} : OpenNames).reopened entries) element inSequence
      (c.options.forcesArray repeats) = some property) :
    Reaches c.options.dialect (c.schemaDocument {} schema) path (definitionsOf entries)
      property := by
  induction hchain generalizing property with
  | root helement hname =>
      exact .root ((value?_declaredRoots hregular).2 ⟨_, helement, hname, h⟩)
  | @next path entries below outer element inSequence repeated repeats name hchain hleads hname
      ih =>
      rw [OpenNames.admits_append] at hadmits
      rw [OpenNames.reopened_append] at h
      rw [List.tail_append_of_ne_nil hchain.path_ne_nil, List.forall_mem_append] at hkeys
      obtain ⟨outerName, houterName⟩ := hchain.exists_name
      obtain ⟨single, hsingle, object, hwalk, hvalue⟩ :=
        exists_offers_element hc hregular (contains_of_writtenChain hc hchain) houterName hleads
          (hkeys.2 name (List.mem_singleton_self name)) ⟨hadmits.2, rfl, hname, h⟩
      -- The element before has a schema as well, so the walk had come to it.
      obtain ⟨outerProperty, houterProperty⟩ : ∃ outerProperty,
          c.elementSchema? (({} : OpenNames).reopened entries) outer inSequence
            (c.options.forcesArray repeated) = some outerProperty := by
        rw [elementSchema?, presented, houterName, hsingle]
        simp only
        split <;> exact ⟨_, rfl⟩
      obtain ⟨object, hwalk, hvalue⟩ := (offers_presented_iff houterProperty).2
        ⟨single, hsingle, object, hwalk, hvalue⟩
      rw [definitionsOf_append]
      refine .next (ih hadmits.1 hkeys.1 houterProperty) ?_ hvalue
      rw [definitionsIn_schemaDocument]
      exact hwalk

/-! ## Elements written as arrays -/

/-- The conversion writes an element as an array: the options make an array of it, or its inline
type is a list that has a schema. -/
def WritesArray (c : Conversion) (element : Element) (inSequence repeats : Bool) : Prop :=
  c.options.Classifies element inSequence repeats ∨
    ∃ type, element.simpleType? = some type ∧ type.list?.isSome ∧
      (c.simpleTypeSchema? type).isSome

/-- An element that is written as an array has the schema of an array. -/
theorem exists_isArray_of_writesArray (hregular : schema.Regular) {names : OpenNames}
    {element : Element} {inSequence repeats : Bool} {name : String}
    (helement : schema.Contains (.element element)) (hname : nonempty? element.name? = some name)
    (hmap : c.typeMap = TypeMap.builtin) (h : c.WritesArray element inSequence repeats) :
    ∃ property, c.elementSchema? names element inSequence (c.options.forcesArray repeats) =
      some property ∧ property.IsArray := by
  have harray : ∀ minItems? items, (JsonSchema.array minItems? items).IsArray := fun _ _ => rfl
  unfold elementSchema? presented
  rw [hname]
  simp only
  split
  · -- The options make an array of it.
    exact ⟨_, rfl, harray ..⟩
  · rename_i hclassified
    rcases h with h | ⟨type, hsimple, hlist, hschema⟩
    · exact absurd ((Options.classifies_iff ..).1 h) hclassified
    · have hinline : element.complexType? = none := by
        cases htype : element.complexType? with
        | none => rfl
        | some complex =>
            rw [(hregular.of_complexType helement htype).1] at hsimple
            cases hsimple
      obtain ⟨property, hproperty⟩ := Option.isSome_iff_exists.1 hschema
      refine ⟨property, ?_, (isArray_simpleTypeSchema?_iff hmap hproperty).2 hlist⟩
      rw [singleSchema?_of_simpleType hname hinline hsimple, hproperty]

/-- Of what is written for a single occurrence only an inline list is an array. -/
theorem exists_list_of_isArray (hmap : c.typeMap = TypeMap.builtin) {names : OpenNames}
    {element : Element} {single : JsonSchema} (hsingle : c.OccurrenceOf names element single)
    (h : single.IsArray) :
    ∃ type, element.simpleType? = some type ∧ type.list?.isSome ∧
      (c.simpleTypeSchema? type).isSome := by
  cases hsingle with
  | complexType => exact absurd h (not_isArray_contentSchema _ _)
  | simpleType _ hsimple hschema =>
      refine ⟨_, hsimple, (isArray_simpleTypeSchema?_iff hmap hschema).1 h, ?_⟩
      rw [hschema, Option.isSome_some]
  | typeName => exact absurd h (not_isArray_namedSchema hmap _)
  | untyped => cases h

/-- Only an element that is written as an array has the schema of an array. -/
theorem writesArray_of_isArray (hregular : schema.Regular) {names : OpenNames} {element : Element}
    {inSequence repeats : Bool} (helement : schema.Contains (.element element))
    (hmap : c.typeMap = TypeMap.builtin) {property : JsonSchema}
    (hproperty : c.elementSchema? names element inSequence (c.options.forcesArray repeats) =
      some property) (h : property.IsArray) : c.WritesArray element inSequence repeats := by
  obtain ⟨name, hname⟩ := exists_name_of_presented hproperty
  unfold elementSchema? presented at hproperty
  rw [hname] at hproperty
  simp only at hproperty
  split at hproperty
  · rename_i hclassified
    exact Or.inl ((Options.classifies_iff ..).2 hclassified)
  · exact Or.inr (exists_list_of_isArray hmap
      (occurrenceOf_of_singleSchema? hregular helement hname hproperty) h)

end Conversion

end SchemaBridge
