import Mathlib.Data.List.Nodup
import SchemaBridge.Proofs.Paths.Depth
import SchemaBridge.Proofs.Paths.WrittenChain

/-!
# Derived paths and converted schemas

The array paths of a document are meant to be the paths of the arrays in its converted schema. For
regular documents without type mappings this module says when they are, in both directions.

* Every derived path is an array unless its chain takes an element from an extension without a
  base: such an element is visited and not written
  (`Document.pathsAreArrays_iff_and_of_basesNamed`).
* Every array that a reader comes to without entering a definition inside itself has a derived path
  unless its chain enters a group again in another definition, or goes through a list of complex
  items: the walk that collects paths keeps groups open in the types it follows
  (`Document.arraysHavePaths_iff_and_of_groupsStayOpen`).

Both exceptions occur, in `strayDocument` and in `circleDocument`.
-/

set_option autoImplicit false

namespace SchemaBridge

open Xsd JsonSchema

namespace Xsd.Document

variable {options : Options} {document : Document} {schema : Schema}

/-! ## Documents that stray and go in circles -/

/-- Every unbounded element of a sequence becomes an array. -/
def unboundedAsArrays : Options := { treatUnboundedAsArray := true }

/-- An unbounded element of a built-in type. -/
def repeatedElement (name : String) : Element :=
  { name? := some name, typeName? := some "xs:string", occurs := { max? := some "unbounded" } }

/-- A type that extends no base by an unbounded element, which is visited and not written. -/
def strayType : ComplexType :=
  { complexContent? := some { sequence? := some { elements := [repeatedElement "a"] } } }

/-- An element of such a type. -/
def strayRoot : Element := { name? := some "r", complexType? := some strayType }

/-- A schema with such an element. -/
def straySchema : Schema := { elements := [strayRoot] }

/-- A document with such an element. -/
def strayDocument : Document := { schema? := some straySchema }

theorem eq_of_straySchema_contains {component : Component} (h : straySchema.Contains component) :
    component = .element strayRoot ∨ component = .complexType strayType ∨
      component = .sequence { elements := [repeatedElement "a"] } ∨
      component = .element (repeatedElement "a") := by
  induction h with
  | element helement =>
      rw [List.mem_singleton.1 helement]
      exact Or.inl rfl
  | complexType htype => cases htype
  | group hgroup => cases hgroup
  | inline _ htype ih =>
      rcases ih with h | h | h | h <;> cases h <;> cases htype
      exact Or.inr (Or.inl rfl)
  | own _ hsequence ih =>
      rcases ih with h | h | h | h <;> cases h
      cases hsequence
  | extension _ hextension hsequence ih =>
      rcases ih with h | h | h | h <;> cases h
      cases hextension
      cases hsequence
      exact Or.inr (Or.inr (Or.inl rfl))
  | member _ helement ih =>
      rcases ih with h | h | h | h <;> cases h
      rw [List.mem_singleton.1 helement]
      exact Or.inr (Or.inr (Or.inr rfl))

theorem straySchema_regular : straySchema.Regular where
  one_content type h := by
    rcases eq_of_straySchema_contains h with h | h | h | h <;> cases h
    decide
  inline_unnamed element type h htype := by
    rcases eq_of_straySchema_contains h with h | h | h | h <;> cases h <;> cases htype
    rfl
  one_type element h := by
    rcases eq_of_straySchema_contains h with h | h | h | h <;> cases h <;> decide
  members_distinct type sequence h hsequence := by
    rcases eq_of_straySchema_contains h with h | h | h | h <;> cases h
    cases hsequence
  roots_distinct := by decide
  not_builtin type h := by cases h

theorem straySchema_unmarked : straySchema.Unmarked := by
  intro type sequence groups repeats element name h hsequence
  rcases eq_of_straySchema_contains h with h | h | h | h <;> cases h
  cases hsequence

/-- An element of the type `T`. -/
def circleElement : Element := { name? := some "a", typeName? := some "T" }

/-- What the group `G` stands for: an element of the type `T` and an unbounded one. -/
def circleContent : Sequence := { elements := [circleElement, repeatedElement "c"] }

/-- A reference to the group `G`. -/
def circleGroup : Group := { ref? := some "G" }

/-- The content that only refers to the group. -/
def circleReference : Sequence := { groups := [circleGroup] }

/-- The type `T`, whose content is the group. -/
def circleType : ComplexType := { name? := some "T", sequence? := some circleReference }

/-- The content of the top-level element is the group too. -/
def circleRootType : ComplexType := { sequence? := some circleReference }

/-- An element of that type. -/
def circleRoot : Element := { name? := some "r", complexType? := some circleRootType }

/-- A schema in which the group `G` and the type `T` refer to each other. -/
def circleSchema : Schema :=
  { elements := [circleRoot], complexTypes := [circleType],
    groups := [{ name? := some "G", sequence? := some circleContent }] }

/-- A document with that schema. -/
def circleDocument : Document := { schema? := some circleSchema }

theorem eq_of_circleSchema_contains {component : Component} (h : circleSchema.Contains component) :
    component = .element circleRoot ∨ component = .complexType circleRootType ∨
      component = .complexType circleType ∨ component = .sequence circleReference ∨
      component = .sequence circleContent ∨ component = .element circleElement ∨
      component = .element (repeatedElement "c") := by
  induction h with
  | element helement =>
      rw [List.mem_singleton.1 helement]
      simp
  | complexType htype =>
      rw [List.mem_singleton.1 htype]
      simp
  | group hgroup hsequence =>
      rw [List.mem_singleton.1 hgroup] at hsequence
      cases hsequence
      simp
  | inline _ htype ih =>
      rcases ih with h | h | h | h | h | h | h <;> cases h <;> cases htype
      simp
  | own _ hsequence ih =>
      rcases ih with h | h | h | h | h | h | h <;> cases h <;> cases hsequence <;> simp
  | extension _ hextension _ ih =>
      rcases ih with h | h | h | h | h | h | h <;> cases h <;> cases hextension
  | member _ helement ih =>
      rcases ih with h | h | h | h | h | h | h <;> cases h
      · cases helement
      · simp only [circleContent, List.mem_cons, List.not_mem_nil, or_false] at helement
        rcases helement with rfl | rfl <;> simp

theorem circleReference_members :
    Schema.elementNames (circleReference.members (Registry.ofSchema circleSchema) {}) =
      ["a", "c"] := by
  have henter : (Registry.ofSchema circleSchema).enterGroup? {} (some "G") =
      some (({} : OpenNames).push .group "G", circleContent) := rfl
  unfold Sequence.members
  rw [Sequence.membersBelow_eq]
  simp only [circleReference, circleGroup, List.map_nil, List.nil_append, List.flatMap_cons,
    List.flatMap_nil, List.append_nil, henter]
  rw [Sequence.membersBelow_eq]
  rfl

theorem circleSchema_regular : circleSchema.Regular where
  one_content type h := by
    rcases eq_of_circleSchema_contains h with h | h | h | h | h | h | h <;> cases h <;> decide
  inline_unnamed element type h htype := by
    rcases eq_of_circleSchema_contains h with h | h | h | h | h | h | h <;> cases h <;> cases htype
    rfl
  one_type element h := by
    rcases eq_of_circleSchema_contains h with h | h | h | h | h | h | h <;> cases h <;> decide
  members_distinct type sequence h hsequence := by
    have hreference : sequence = circleReference := by
      rcases eq_of_circleSchema_contains h with h | h | h | h | h | h | h <;> cases h <;>
        cases hsequence <;> rfl
    rw [hreference, circleReference_members]
    decide
  roots_distinct := by decide
  not_builtin type h name hname := by
    rw [List.mem_singleton.1 h] at hname
    cases hname
    decide

theorem circleSchema_unmarked : circleSchema.Unmarked := by
  intro type sequence groups repeats element name htype hsequence hdecl hname
  have helement : circleSchema.Contains (.element element) :=
    .of_sequence_declares (.of_contentShape htype hsequence) hdecl
  rcases eq_of_circleSchema_contains helement with h | h | h | h | h | h | h <;> cases h <;>
    cases hname <;> decide

/-! ## Derived paths are arrays -/

/-- Some walk through the converted schema along a path comes to an array. -/
def IsArrayAt (document : Document) (options : Options) (path : String) : Prop :=
  ∃ output names opened property, convertWith options document = .ok output ∧
    joinedPath names = path ∧ Reaches options.dialect output names opened property ∧
    property.IsArray

/-- A written chain to an array is a walk to an array. -/
theorem exists_reaches_of_writtenChain (hmappings : options.typeMappings = [])
    (hschema : document.schema? = some schema) (hregular : schema.Regular)
    {path : List String} {entries : List Entry} {element : Element} {inSequence repeats : Bool}
    (hchain : WrittenChain (Conversion.ofDocument options document) schema path entries element
      inSequence repeats)
    (hadmits : ({} : OpenNames).Admits entries) (hkeys : ∀ name ∈ path.tail, ¬ IsMarked name)
    (harray : (Conversion.ofDocument options document).WritesArray element inSequence repeats) :
    ∃ output property, convertWith options document = .ok output ∧
      Reaches options.dialect output path (definitionsOf entries) property ∧
      property.IsArray := by
  have hc := registry_ofDocument options hschema
  obtain ⟨name, hname⟩ := hchain.exists_name
  obtain ⟨property, hproperty, harray⟩ := Conversion.exists_isArray_of_writesArray hregular
    (Conversion.contains_of_writtenChain hc hchain) hname (typeMap_ofDocument hmappings) harray
  refine ⟨_, property, convertWith_eq_ok_iff.2 ⟨schema, hschema, hchain.elements_ne_nil, rfl⟩,
    Conversion.reaches_of_chain hc hregular hchain hadmits hkeys hproperty, harray⟩

/-- Some written chain spells a path and ends at an element that is written as an array. -/
def WritesArrayAt (document : Document) (options : Options) (path : String) : Prop :=
  ∃ schema names entries element inSequence repeats, document.schema? = some schema ∧
    WrittenChain (Conversion.ofDocument options document) schema names entries element inSequence
      repeats ∧
    ({} : OpenNames).Admits entries ∧ joinedPath names = path ∧
    (Conversion.ofDocument options document).WritesArray element inSequence repeats

/-- Some walk along a path comes to an array through a property that no element has. -/
def IsArrayBesideElementsAt (document : Document) (options : Options) (path : String) : Prop :=
  ∃ output names opened property, convertWith options document = .ok output ∧
    joinedPath names = path ∧ Reaches options.dialect output names opened property ∧
    property.IsArray ∧ ∃ name ∈ names, ¬ IsElementKey name

/-- A path leads to an array exactly when it is the path of a written chain to one, or leads through
a property of an attribute or of text. -/
theorem isArrayAt_iff (hmappings : options.typeMappings = [])
    (hregular : ∀ schema, document.schema? = some schema → schema.Regular ∧ schema.Unmarked)
    {path : String} :
    document.IsArrayAt options path ↔
      document.WritesArrayAt options path ∨ document.IsArrayBesideElementsAt options path := by
  constructor
  · -- A walk along names of elements only is a written chain.
    rintro ⟨output, names, opened, property, houtput, hpath, hreach, harray⟩
    by_cases hkeys : ∀ name ∈ names, IsElementKey name
    · obtain ⟨schema, hschema, -, rfl⟩ := convertWith_eq_ok_iff.1 houtput
      have hc := registry_ofDocument options hschema
      obtain ⟨entries, element, inSequence, repeats, hchain, hadmits, -, hproperty⟩ :=
        Conversion.exists_chain_of_reaches hc (hregular schema hschema).1 hreach hkeys
      exact Or.inl ⟨schema, names, entries, element, inSequence, repeats, hschema, hchain, hadmits,
        hpath, Conversion.writesArray_of_isArray (hregular schema hschema).1
          (Conversion.contains_of_writtenChain hc hchain) (typeMap_ofDocument hmappings) hproperty
          harray⟩
    · refine Or.inr ⟨output, names, opened, property, houtput, hpath, hreach, harray, ?_⟩
      simpa only [Classical.not_forall, exists_prop] using hkeys
  · rintro (⟨schema, names, entries, element, inSequence, repeats, hschema, hchain, hadmits, hpath,
      harray⟩ | ⟨output, names, opened, property, houtput, hpath, hreach, harray, -⟩)
    · have hc := registry_ofDocument options hschema
      obtain ⟨output, property, houtput, hreach, harray⟩ := exists_reaches_of_writtenChain hmappings
        hschema (hregular schema hschema).1 hchain hadmits
        (Conversion.unmarked_of_writtenChain hc (hregular schema hschema).2 hchain) harray
      exact ⟨output, names, _, property, houtput, hpath, hreach, harray⟩
    · exact ⟨output, names, opened, property, houtput, hpath, hreach, harray⟩

/-- What a chain without circles declares is written, when extensions that add elements name a
base. -/
theorem writtenChain_of_declaredChain (hmappings : options.typeMappings = [])
    (hschema : document.schema? = some schema) (hregular : schema.Regular)
    (hbases : schema.BasesNamed) {path : List String} {entries : List Entry} {element : Element}
    {inSequence repeats : Bool}
    (h : DeclaredChain (Registry.ofSchema schema) schema path entries element inSequence repeats) :
    WrittenChain (Conversion.ofDocument options document) schema path entries element inSequence
      repeats := by
  have hc := registry_ofDocument options hschema
  refine (h.mono (fun _ _ _ _ houter hdecl => houter.of_element_declares hdecl) ?_).2
  intro outer below repeats inner houter hdecl
  rw [← hc] at hdecl
  exact Conversion.leads_of_declares hc (typeMap_ofDocument hmappings) hregular hbases houter hdecl

/-- Every derived array path is the path of an array in the converted schema. -/
def PathsAreArrays (document : Document) (options : Options) : Prop :=
  ∀ path ∈ document.arrayPaths options, document.IsArrayAt options path

/-- Every chain of declarations that enters nothing twice and ends at an element that the options
make an array of has the path of a written array, or one through attributes or text. -/
def DeclaredArraysAreWritten (document : Document) (options : Options) : Prop :=
  ∀ schema elements entries element inSequence repeats, document.schema? = some schema →
    DeclaredChain (Registry.ofSchema schema) schema elements entries element inSequence repeats →
    entries.Nodup → options.Classifies element inSequence repeats →
    document.WritesArrayAt options (joinedPath elements) ∨
      document.IsArrayBesideElementsAt options (joinedPath elements)

theorem pathsAreArrays_iff (hmappings : options.typeMappings = [])
    (hregular : ∀ schema, document.schema? = some schema → schema.Regular ∧ schema.Unmarked) :
    document.PathsAreArrays options ↔ document.DeclaredArraysAreWritten options := by
  constructor
  · intro h schema elements entries element inSequence repeats hschema hchain hnodup hclassifies
    have hmem : joinedPath elements ∈ document.arrayPaths options :=
      mem_arrayPaths_iff_schema.2 ⟨schema, hschema, Schema.mem_arrayPaths_iff.2
        ⟨elements, entries, element, inSequence, repeats, hchain,
          (OpenNames.fresh_empty_iff entries).2 hnodup, rfl, hclassifies⟩⟩
    exact (isArrayAt_iff hmappings hregular).1 (h _ hmem)
  · intro h path hmem
    obtain ⟨schema, hschema, hmem⟩ := mem_arrayPaths_iff_schema.1 hmem
    obtain ⟨elements, entries, element, inSequence, repeats, hchain, hfresh, rfl, hclassifies⟩ :=
      Schema.mem_arrayPaths_iff.1 hmem
    exact (isArrayAt_iff hmappings hregular).2 (h schema elements entries element inSequence repeats
      hschema hchain ((OpenNames.fresh_empty_iff entries).1 hfresh) hclassifies)

/-- **Derived array paths are arrays of the converted schema exactly when each is the path of a
written array**, leaving aside walks through attributes and text. So it is whenever every extension
that adds elements names its base, however types and groups refer to each other. -/
theorem pathsAreArrays_iff_and_of_basesNamed (hmappings : options.typeMappings = [])
    (hregular : ∀ schema, document.schema? = some schema → schema.Regular ∧ schema.Unmarked) :
    (document.PathsAreArrays options ↔ document.DeclaredArraysAreWritten options) ∧
      ((∀ schema, document.schema? = some schema → schema.BasesNamed) →
        document.PathsAreArrays options) := by
  have hiff : document.PathsAreArrays options ↔ document.DeclaredArraysAreWritten options :=
    pathsAreArrays_iff hmappings hregular
  refine ⟨hiff, fun hbases => hiff.2 ?_⟩
  -- The chain of declarations is itself a written chain.
  intro schema elements entries element inSequence repeats hschema hchain hnodup hclassifies
  refine Or.inl ⟨schema, elements, entries, element, inSequence, repeats, hschema, ?_, ?_, rfl,
    Or.inl hclassifies⟩
  · exact writtenChain_of_declaredChain hmappings hschema (hregular schema hschema).1
      (hbases schema hschema) hchain
  · -- The guard of a derived path is never opened anew, so that of the definitions admits it.
    exact OpenNames.admits_of_fresh ((OpenNames.fresh_empty_iff _).2 hnodup) fun _ _ h => h

/-- The derived paths of the document with a circle are arrays: it has no extensions. -/
theorem pathsAreArrays_circleDocument :
    unboundedAsArrays.typeMappings = [] ∧
      (∀ schema, circleDocument.schema? = some schema → schema.Regular ∧ schema.Unmarked) ∧
      circleDocument.PathsAreArrays unboundedAsArrays := by
  have hregular : ∀ schema, circleDocument.schema? = some schema →
      schema.Regular ∧ schema.Unmarked := by
    intro schema h
    cases h
    exact ⟨circleSchema_regular, circleSchema_unmarked⟩
  refine ⟨rfl, hregular, (pathsAreArrays_iff_and_of_basesNamed rfl hregular).2 ?_⟩
  intro schema h type extension htype hextension
  cases h
  rcases eq_of_circleSchema_contains htype with h | h | h | h | h | h | h <;> cases h <;>
    cases hextension

theorem mem_arrayPaths_strayDocument :
    "r.a" ∈ strayDocument.arrayPaths unboundedAsArrays := by
  refine mem_arrayPaths_iff_schema.2 ⟨straySchema, rfl, ?_⟩
  have hcollect : Collector.collectWithin 20
      { kind := .arrays unboundedAsArrays, registry := Registry.ofSchema straySchema } straySchema =
      some { kind := .arrays unboundedAsArrays, registry := Registry.ofSchema straySchema,
             paths := ["r.a"] } := rfl
  have hschema : strayDocument.schema? = some straySchema := rfl
  have harrays : straySchema.arrayPaths unboundedAsArrays (Registry.ofSchema straySchema) {} =
      ["r.a"] := find_eq_of_collectWithin hschema (by decide) hcollect
  rw [harrays]
  exact List.mem_singleton_self _

/-- The element is written without properties. -/
theorem elementSchema?_strayRoot :
    (Conversion.ofDocument unboundedAsArrays strayDocument).elementSchema? {} strayRoot false
      false = some (.object [] []) := by
  have hwithin : (Conversion.ofDocument unboundedAsArrays strayDocument).elementWithin 20 {}
      strayRoot false false = some (some (.object [] [])) := rfl
  have hregistry : (Conversion.ofDocument unboundedAsArrays strayDocument).registry =
      Registry.ofDocument strayDocument := rfl
  have hreturns :=
    (Conversion.emissionReturns hregistry 20).1 {} strayRoot false false (by decide)
  exact (Option.some.inj (hwithin.symm.trans hreturns)).symm

/-- **A derived path that is no array**: the path of an element that an extension without a base
adds. -/
theorem strayDocument_not_pathsAreArrays :
    straySchema.Regular ∧ straySchema.Unmarked ∧ unboundedAsArrays.typeMappings = [] ∧
      strayDocument.schema? = some straySchema ∧
      ¬ strayDocument.PathsAreArrays unboundedAsArrays := by
  refine ⟨straySchema_regular, straySchema_unmarked, rfl, rfl, fun h => ?_⟩
  obtain ⟨output, names, opened, property, houtput, hpath, hreach, -⟩ :=
    h "r.a" mem_arrayPaths_strayDocument
  obtain ⟨schema, hschema, -, rfl⟩ := convertWith_eq_ok_iff.1 houtput
  cases hschema
  -- The walk ends at the top-level element, which has no properties.
  have hroot : names = ["r"] ∧ property = .object [] [] := by
    clear hpath
    induction hreach with
    | root hvalue =>
        obtain ⟨element, helement, hname, hproperty⟩ :=
          (Conversion.value?_declaredRoots straySchema_regular).1 hvalue
        rw [List.mem_singleton.1 helement] at hname hproperty
        cases hname
        exact ⟨rfl, Option.some.inj (hproperty.symm.trans elementSchema?_strayRoot)⟩
    | next _ hwalk hvalue ih =>
        obtain ⟨-, rfl⟩ := ih
        obtain ⟨-, hnone⟩ := offers_object.1 ⟨_, hwalk, hvalue⟩
        cases hnone
  rw [hroot.1] at hpath
  exact absurd hpath (by decide)

/-! ## Arrays have derived paths -/

/-- A path is derived: for an element that the options make an array of, or for one whose type is a
list. -/
def IsDerived (document : Document) (options : Options) (path : String) : Prop :=
  path ∈ document.arrayPaths options ∨ path ∈ deriveListPaths document

/-- Some chain of declarations that enters nothing twice spells a path and ends at an element that
the options make an array of, or whose type is a list. -/
def DeclaresArrayAt (document : Document) (options : Options) (path : String) : Prop :=
  ∃ schema elements entries element inSequence repeats, document.schema? = some schema ∧
    DeclaredChain (Registry.ofSchema schema) schema elements entries element inSequence repeats ∧
    entries.Nodup ∧ joinedPath elements = path ∧
    (options.Classifies element inSequence repeats ∨
      element.IsList (Registry.ofSchema schema) (({} : OpenNames).enterAll entries))

theorem isDerived_iff {path : String} :
    document.IsDerived options path ↔ document.DeclaresArrayAt options path := by
  constructor
  · rintro (h | h)
    · obtain ⟨schema, hschema, h⟩ := mem_arrayPaths_iff_schema.1 h
      obtain ⟨elements, entries, element, inSequence, repeats, hchain, hfresh, hpath, h⟩ :=
        Schema.mem_arrayPaths_iff.1 h
      exact ⟨schema, elements, entries, element, inSequence, repeats, hschema, hchain,
        (OpenNames.fresh_empty_iff entries).1 hfresh, hpath, Or.inl h⟩
    · obtain ⟨schema, hschema, h⟩ := mem_deriveListPaths_iff.1 h
      obtain ⟨elements, entries, element, inSequence, repeats, hchain, hfresh, hpath, h⟩ :=
        Schema.mem_listPaths_iff.1 h
      exact ⟨schema, elements, entries, element, inSequence, repeats, hschema, hchain,
        (OpenNames.fresh_empty_iff entries).1 hfresh, hpath, Or.inr h⟩
  · rintro ⟨schema, elements, entries, element, inSequence, repeats, hschema, hchain, hnodup,
      hpath, h⟩
    have hfresh := (OpenNames.fresh_empty_iff entries).2 hnodup
    rcases h with h | h
    · exact Or.inl (mem_arrayPaths_iff_schema.2 ⟨schema, hschema, Schema.mem_arrayPaths_iff.2
        ⟨elements, entries, element, inSequence, repeats, hchain, hfresh, hpath, h⟩⟩)
    · exact Or.inr (mem_deriveListPaths_iff.2 ⟨schema, hschema, Schema.mem_listPaths_iff.2
        ⟨elements, entries, element, inSequence, repeats, hchain, hfresh, hpath, h⟩⟩)

/-- What is written is declared, when no list has items of a complex type. -/
theorem declaredChain_of_writtenChain (hschema : document.schema? = some schema)
    (hregular : schema.Regular) (hlists : schema.ListsAreSimple) {path : List String}
    {entries : List Entry} {element : Element} {inSequence repeats : Bool}
    (h : WrittenChain (Conversion.ofDocument options document) schema path entries element
      inSequence repeats) :
    DeclaredChain (Registry.ofSchema schema) schema path entries element inSequence repeats := by
  have hc := registry_ofDocument options hschema
  refine (h.mono (fun _ _ _ _ houter hleads => hleads.contains hc houter) ?_).2
  intro outer below repeats inner houter hleads
  rw [← hc]
  exact Conversion.declares_of_leads hc hregular hlists houter hleads

/-- Every array to which a walk along elements comes without opening a definition inside itself has
a derived path. -/
def ArraysHavePaths (document : Document) (options : Options) : Prop :=
  ∀ output names opened property, convertWith options document = .ok output →
    Reaches options.dialect output names opened property → opened.Nodup →
    (∀ name ∈ names, IsElementKey name) → property.IsArray →
    document.IsDerived options (joinedPath names)

/-- Every written chain to an array along which no definition comes twice has the path of a chain of
declarations along which nothing comes twice. -/
def WrittenArraysAreDeclared (document : Document) (options : Options) : Prop :=
  ∀ schema names entries element inSequence repeats, document.schema? = some schema →
    WrittenChain (Conversion.ofDocument options document) schema names entries element inSequence
      repeats →
    ({} : OpenNames).Admits entries → (definitionsOf entries).Nodup →
    (∀ name ∈ names, IsElementKey name) →
    (Conversion.ofDocument options document).WritesArray element inSequence repeats →
    document.DeclaresArrayAt options (joinedPath names)

/-- No written chain enters a group again without entering a definition again. -/
def GroupsStayOpen (document : Document) (options : Options) (schema : Schema) : Prop :=
  ∀ names entries element inSequence repeats,
    WrittenChain (Conversion.ofDocument options document) schema names entries element inSequence
      repeats →
    ({} : OpenNames).Admits entries → (definitionsOf entries).Nodup → entries.Nodup

/-- Circles of types alone leave no group open. -/
theorem groupsStayOpen_of_groups_eq_nil (hschema : document.schema? = some schema)
    (hgroups : schema.groups = []) : document.GroupsStayOpen options schema := by
  intro names entries element inSequence repeats hchain _ hnodup
  have hc := registry_ofDocument options hschema
  have hne := Conversion.ne_group_of_writtenChain hc hgroups hchain
  -- All entries are definitions, and none comes twice.
  rw [definitionsOf, List.filter_eq_self.2 fun entry h => decide_eq_true (hne entry h)] at hnodup
  exact List.Nodup.of_map _ hnodup

theorem arraysHavePaths_iff (hmappings : options.typeMappings = [])
    (hregular : ∀ schema, document.schema? = some schema → schema.Regular) :
    document.ArraysHavePaths options ↔ document.WrittenArraysAreDeclared options := by
  constructor
  · intro h schema names entries element inSequence repeats hschema hchain hadmits hnodup hkeys
      harray
    obtain ⟨output, property, houtput, hreach, hproperty⟩ :=
      exists_reaches_of_writtenChain hmappings hschema (hregular schema hschema) hchain hadmits
        (fun name hname => (hkeys name (List.mem_of_mem_tail hname)).1) harray
    exact isDerived_iff.1 (h output names _ property houtput hreach hnodup hkeys hproperty)
  · intro h output names opened property houtput hreach hnodup hkeys hproperty
    obtain ⟨schema, hschema, -, rfl⟩ := convertWith_eq_ok_iff.1 houtput
    have hc := registry_ofDocument options hschema
    obtain ⟨entries, element, inSequence, repeats, hchain, hadmits, hopened, helement⟩ :=
      Conversion.exists_chain_of_reaches hc (hregular schema hschema) hreach hkeys
    rw [← hopened] at hnodup
    have harray := Conversion.writesArray_of_isArray (hregular schema hschema)
      (Conversion.contains_of_writtenChain hc hchain) (typeMap_ofDocument hmappings) helement
      hproperty
    exact isDerived_iff.2
      (h schema names entries element inSequence repeats hschema hchain hadmits hnodup hkeys harray)

/-- **Arrays have derived paths exactly when each written chain to an array has the path of a chain
of declarations that enters nothing twice.** So it is whenever no list has items of a complex type
and no written chain enters a group again without entering a definition again. -/
theorem arraysHavePaths_iff_and_of_groupsStayOpen (hmappings : options.typeMappings = [])
    (hregular : ∀ schema, document.schema? = some schema → schema.Regular) :
    (document.ArraysHavePaths options ↔ document.WrittenArraysAreDeclared options) ∧
      ((∀ schema, document.schema? = some schema →
        schema.ListsAreSimple ∧ document.GroupsStayOpen options schema) →
        document.ArraysHavePaths options) := by
  have hiff : document.ArraysHavePaths options ↔ document.WrittenArraysAreDeclared options :=
    arraysHavePaths_iff hmappings hregular
  refine ⟨hiff, fun hsimple => hiff.2 ?_⟩
  -- The written chain is itself a chain of declarations.
  intro schema names entries element inSequence repeats hschema hchain hadmits hnodup hkeys harray
  obtain ⟨hlists, hgroups⟩ := hsimple schema hschema
  refine ⟨schema, names, entries, element, inSequence, repeats, hschema,
    declaredChain_of_writtenChain hschema (hregular schema hschema) hlists hchain,
    hgroups names entries element inSequence repeats hchain hadmits hnodup, rfl, ?_⟩
  rcases harray with hclassifies | ⟨type, hinline, hlist, -⟩
  · exact Or.inl hclassifies
  · exact Or.inr (Or.inl ⟨type, hinline, hlist⟩)

/-- On the document with a circle the condition is met exactly when each array has a path. -/
theorem arraysHavePaths_iff_circleDocument :
    unboundedAsArrays.typeMappings = [] ∧
      (∀ schema, circleDocument.schema? = some schema → schema.Regular) ∧
      (circleDocument.ArraysHavePaths unboundedAsArrays ↔
        circleDocument.WrittenArraysAreDeclared unboundedAsArrays) := by
  have hregular : ∀ schema, circleDocument.schema? = some schema → schema.Regular := by
    intro schema h
    cases h
    exact circleSchema_regular
  exact ⟨rfl, hregular, (arraysHavePaths_iff_and_of_groupsStayOpen rfl hregular).1⟩

/-- The derived paths of the document. -/
theorem isDerived_circleDocument {path : String}
    (h : circleDocument.IsDerived unboundedAsArrays path) : path = "r.c" := by
  have harrays : Collector.collectWithin 20
      { kind := .arrays unboundedAsArrays, registry := Registry.ofSchema circleSchema }
      circleSchema =
      some { kind := .arrays unboundedAsArrays, registry := Registry.ofSchema circleSchema,
             paths := ["r.c"] } := rfl
  have hlists : Collector.collectWithin 20
      { kind := .lists, registry := Registry.ofSchema circleSchema } circleSchema =
      some { kind := .lists, registry := Registry.ofSchema circleSchema } := rfl
  have hschema : circleDocument.schema? = some circleSchema := rfl
  have harrays : circleSchema.arrayPaths unboundedAsArrays (Registry.ofSchema circleSchema) {} =
      ["r.c"] := find_eq_of_collectWithin hschema (by decide) harrays
  have hlists : circleSchema.listPaths (Registry.ofSchema circleSchema) {} = [] :=
    find_eq_of_collectWithin hschema (by decide) hlists
  rcases h with h | h
  · obtain ⟨schema, hsome, h⟩ := mem_arrayPaths_iff_schema.1 h
    cases hsome
    rw [harrays] at h
    exact List.mem_singleton.1 h
  · obtain ⟨schema, hsome, h⟩ := mem_deriveListPaths_iff.1 h
    cases hsome
    rw [hlists] at h
    cases h

/-- The entries of the chain to the unbounded element of the type: the group comes twice. -/
def circleEntries : List Entry := [(.group, "G"), (.complexType, "T"), (.group, "G")]

theorem writtenChain_circleDocument :
    WrittenChain (Conversion.ofDocument unboundedAsArrays circleDocument) circleSchema
      ["r", "a", "c"] circleEntries (repeatedElement "c") true false := by
  have hroot : WrittenChain (Conversion.ofDocument unboundedAsArrays circleDocument) circleSchema
      ["r"] [] circleRoot false false := .root (List.mem_singleton_self _) rfl
  have hcontent : ∀ element ∈ circleContent.elements,
      circleReference.Declares (Conversion.ofDocument unboundedAsArrays circleDocument).registry
        [(.group, "G")] false element := by
    intro element helement
    have href : circleGroup ∈ circleReference.groups := List.mem_singleton_self _
    have hname : nonempty? circleGroup.ref? = some "G" := rfl
    exact .group href hname rfl (.own helement)
  have helement : WrittenChain (Conversion.ofDocument unboundedAsArrays circleDocument) circleSchema
      ["r", "a"] [(.group, "G")] circleElement true false :=
    hroot.next (.own rfl rfl (hcontent _ (List.mem_cons_self ..))) rfl
  exact helement.next
    (.named rfl rfl rfl (by decide) (.own rfl rfl (hcontent _ (by simp [circleContent])))) rfl

/-- **An array without a derived path**: the path enters the type that the group refers to, and
there the group again. -/
theorem circleDocument_not_arraysHavePaths :
    circleSchema.Regular ∧ unboundedAsArrays.typeMappings = [] ∧
      circleDocument.schema? = some circleSchema ∧
      ¬ circleDocument.ArraysHavePaths unboundedAsArrays := by
  refine ⟨circleSchema_regular, rfl, rfl, fun h => ?_⟩
  have hkeys : ∀ name ∈ ["r", "a", "c"], IsElementKey name := by decide
  have hwritten : (Conversion.ofDocument unboundedAsArrays circleDocument).WritesArray
      (repeatedElement "c") true false := Or.inl (Or.inr ⟨rfl, rfl, Or.inl rfl⟩)
  -- The group comes twice, but once in each definition, so the guard of the definitions admits it.
  have hadmits : ({} : OpenNames).Admits circleEntries := ⟨rfl, rfl, rfl, trivial⟩
  obtain ⟨output, property, houtput, hreach, harray⟩ := exists_reaches_of_writtenChain rfl rfl
    circleSchema_regular writtenChain_circleDocument hadmits
    (fun name hname => (hkeys name (List.mem_of_mem_tail hname)).1) hwritten
  have hpath := isDerived_circleDocument
    (h output _ _ property houtput hreach (by decide) hkeys harray)
  exact absurd hpath (by decide)

end Xsd.Document

end SchemaBridge
