import SchemaBridge.Proofs.JsonSchema.FlatReference
import SchemaBridge.Proofs.Paths.Consistency

/-!
# Arrays and repeated names

A sequence may declare elements of one name several times, itself or in the groups it refers to, and
with different bounds. A collector records a path as soon as one of the declarations is made an array
of. The object of the sequence has one property for all of them, and there each declaration
overwrites the ones before.

So an array survives exactly when the last declaration of its name that has a schema is written as an
array too (`Conversion.arraysSurvive_iff_last`); in particular when the declarations of each name
agree. On `returnDocument` an unbounded element comes back with a single occurrence, and the property
is no array although its path is recorded.
-/

set_option autoImplicit false

namespace SchemaBridge

open Xsd JsonSchema

namespace Conversion

variable (c : Conversion) (names : OpenNames)

/-! ## Elements of a flattening as properties -/

/-- The options make an array of an element of a flattening. -/
def MakesArray (entry : FlatElement) : Prop :=
  c.options.Classifies entry.element true entry.isRepeated

/-- An element of a flattening is written under a name. -/
def isWritten (name : String) (entry : FlatElement) : Bool :=
  nonempty? entry.element.name? = some name && (c.elementOccurrence names entry).isResolvable

/-- The last element of a flattening that is written under a name. -/
def lastWritten? (sequence? : Option Sequence) (name : String) : Option FlatElement :=
  ((Sequence.optionalFlattening c.registry names sequence?).filter
    (c.isWritten names name)).getLast?

/-- The schema of a single occurrence of an element is itself that of an array, as for a list. -/
def IsArrayAlone (entry : FlatElement) : Prop :=
  ∃ single, c.singleSchema? (entry.names names) entry.element = some single ∧ single.IsArray

/-- Whatever the options make an array of is an array in the object of its sequence. -/
def ArraysSurvive (sequence? : Option Sequence) : Prop :=
  ∀ entry ∈ Sequence.optionalFlattening c.registry names sequence?, c.MakesArray entry →
    ∀ name, nonempty? entry.element.name? = some name →
      ∃ property, (c.objectSchema names sequence? []).properties.value? name = some property ∧
        property.IsArray

variable {c names} {sequence? : Option Sequence}

theorem schema?_elementOccurrence (entry : FlatElement) :
    (c.elementOccurrence names entry).schema? =
      presented entry.element
        (c.options.forcesArray entry.isRepeated || c.options.isArrayElement entry.element true)
        (c.singleSchema? (entry.names names) entry.element) := rfl

/-- What the options make an array of is written, and as an array. -/
theorem exists_isArray_of_makesArray (names : OpenNames) {entry : FlatElement} {name : String}
    (hname : nonempty? entry.element.name? = some name) (h : c.MakesArray entry) :
    ∃ property, (c.elementOccurrence names entry).schema? = some property ∧ property.IsArray := by
  have harray := (Options.classifies_iff ..).1 h
  rw [schema?_elementOccurrence, harray, presented, hname]
  exact ⟨_, rfl, rfl⟩

/-- An element is written as an array exactly when the options make one of it or a single occurrence
is one. -/
theorem isArray_iff {entry : FlatElement} {property : JsonSchema}
    (h : (c.elementOccurrence names entry).schema? = some property) :
    property.IsArray ↔ c.MakesArray entry ∨ c.IsArrayAlone names entry := by
  rw [schema?_elementOccurrence] at h
  unfold MakesArray IsArrayAlone
  rw [Options.classifies_iff]
  obtain ⟨name, hname⟩ := exists_name_of_presented h
  simp only [presented, hname] at h
  cases harray : c.options.forcesArray entry.isRepeated ||
      c.options.isArrayElement entry.element true with
  | true =>
      rw [harray, if_pos rfl] at h
      cases h
      exact ⟨fun _ => Or.inl rfl, fun _ => rfl⟩
  | false =>
      rw [harray, if_neg Bool.false_ne_true] at h
      simp [h]

/-- Among the occurrences under a name the resolvable ones are those that are written. -/
theorem filter_isWritten (entries : List FlatElement) (name : String) :
    ((entries.map (c.elementOccurrence names)).filter Occurrence.isResolvable).filter
        (fun o => o.name = name) =
      (entries.filter (c.isWritten names name)).map (c.elementOccurrence names) := by
  rw [List.filter_filter, List.filter_map]
  congr 1
  refine List.filter_congr fun entry _ => ?_
  simp only [Function.comp_apply, isWritten]
  cases hschema : (c.elementOccurrence names entry).schema? with
  | none => simp [Occurrence.isResolvable, hschema]
  | some property =>
      -- What has a schema has a name, and the occurrence carries it.
      have hpresented := hschema
      rw [schema?_elementOccurrence] at hpresented
      obtain ⟨found, hfound⟩ := exists_name_of_presented hpresented
      simp [Occurrence.isResolvable, elementOccurrence, nonempty?_getD hfound, hfound]

/-- **The property of a name is that of the last element written under it.** -/
theorem value?_objectSchema (name : String) :
    (c.objectSchema names sequence? []).properties.value? name =
      (c.lastWritten? names sequence? name).bind fun entry =>
        (c.elementOccurrence names entry).schema? := by
  have hvalue := Occurrence.value?_declaredProperties_eq (c.occurrences names sequence? []) name
  have hobject : (c.objectSchema names sequence? []).properties =
      declaredProperties [] ((c.occurrences names sequence? []).filterMap Occurrence.declared?) := by
    rw [objectSchema_eq_occurrences]
    rfl
  rw [hobject, hvalue, occurrences, List.filterMap_nil, List.append_nil, filter_isWritten,
    List.getLast?_map, Option.bind_map]
  rfl

/-- An element that the options make an array of is written, so some element under its name is the
last one. -/
theorem exists_lastWritten? {entry : FlatElement} {name : String}
    (hentry : entry ∈ Sequence.optionalFlattening c.registry names sequence?)
    (hname : nonempty? entry.element.name? = some name) (h : c.MakesArray entry) :
    ∃ last, c.lastWritten? names sequence? name = some last := by
  obtain ⟨property, hproperty, -⟩ := exists_isArray_of_makesArray names hname h
  have hwritten : c.isWritten names name entry = true := by
    simp [isWritten, hname, Occurrence.isResolvable, hproperty]
  have hmem := List.mem_filter.2 ⟨hentry, hwritten⟩
  exact ⟨_, List.getLast?_eq_some_getLast (List.ne_nil_of_mem hmem)⟩

/-- The last element written under a name is one of the flattening, has the name and has a schema. -/
theorem of_lastWritten? {name : String} {last : FlatElement}
    (h : c.lastWritten? names sequence? name = some last) :
    last ∈ Sequence.optionalFlattening c.registry names sequence? ∧
      nonempty? last.element.name? = some name ∧
      ∃ property, (c.elementOccurrence names last).schema? = some property := by
  obtain ⟨hmem, hwritten⟩ := List.mem_filter.1 (List.mem_of_getLast? h)
  simp only [isWritten, Bool.and_eq_true, decide_eq_true_eq] at hwritten
  exact ⟨hmem, hwritten.1, Option.isSome_iff_exists.1 hwritten.2⟩

theorem arraysSurvive_iff :
    c.ArraysSurvive names sequence? ↔
      ∀ entry ∈ Sequence.optionalFlattening c.registry names sequence?, c.MakesArray entry →
        ∀ name, nonempty? entry.element.name? = some name →
          ∀ last, c.lastWritten? names sequence? name = some last →
            c.MakesArray last ∨ c.IsArrayAlone names last := by
  constructor
  · intro h entry hentry harray name hname last hlast
    obtain ⟨property, hproperty, hisArray⟩ := h entry hentry harray name hname
    rw [value?_objectSchema, hlast, Option.bind_some] at hproperty
    exact (isArray_iff hproperty).1 hisArray
  · intro h entry hentry harray name hname
    -- An array is written, so there is a last element under its name to speak of.
    obtain ⟨last, hlast⟩ := exists_lastWritten? hentry hname harray
    obtain ⟨-, -, property, hproperty⟩ := of_lastWritten? hlast
    refine ⟨property, ?_, ?_⟩
    · rw [value?_objectSchema, hlast, Option.bind_some, hproperty]
    · exact (isArray_iff hproperty).2 (h entry hentry harray name hname last hlast)

/-- A collector records the path of an element that the options make an array of. -/
theorem mem_foundAt_of_makesArray {entry : FlatElement} {name : String}
    (hentry : entry ∈ Sequence.optionalFlattening c.registry names sequence?)
    (hname : nonempty? entry.element.name? = some name) (h : c.MakesArray entry)
    (path : List String) :
    joinedPath (path ++ [name]) ∈ (CollectedKind.arrays c.options).foundAt c.registry path
      (Sequence.optionalMembers c.registry names sequence?) := by
  have hmember : entry.member names false false ∈
      Sequence.optionalMembers c.registry names sequence? := by
    cases sequence? with
    | none => cases hentry
    | some sequence =>
        show _ ∈ sequence.membersBelow c.registry false false names
        rw [Sequence.membersBelow_eq_flattening]
        exact List.mem_map_of_mem hentry
  have hvisit : ⟨path ++ [name], entry.member names false false, true⟩ ∈
      visitsBelow c.registry path true (entry.member names false false) := by
    rw [visitsBelow_eq]
    simp only [FlatElement.member, hname]
    exact List.mem_cons_self ..
  have hmatch : Visit.isArray c.options
      ⟨path ++ [name], entry.member names false false, true⟩ = true := by
    simpa [Visit.isArray, FlatElement.member] using (Options.classifies_iff ..).1 h
  refine List.mem_map.2 ⟨_, List.mem_filter.2 ⟨?_, hmatch⟩, rfl⟩
  exact List.mem_flatMap.2 ⟨_, hmember, hvisit⟩

/-- **Arrays survive exactly when the last declaration of each name is an array too**: whenever the
options make an array of some element of a name, they make one of the last element written under the
name, or that element is one by itself.

In particular they survive when the declarations of each name agree, and attributes change no property
of an element. A collector records the path of every such element, whatever comes after it. -/
theorem arraysSurvive_iff_last (c : Conversion) (names : OpenNames) (sequence? : Option Sequence) :
    (c.ArraysSurvive names sequence? ↔
      ∀ entry ∈ Sequence.optionalFlattening c.registry names sequence?, c.MakesArray entry →
        ∀ name, nonempty? entry.element.name? = some name →
          ∀ last, c.lastWritten? names sequence? name = some last →
            c.MakesArray last ∨ c.IsArrayAlone names last) ∧
    ((∀ entry ∈ Sequence.optionalFlattening c.registry names sequence?,
        ∀ other ∈ Sequence.optionalFlattening c.registry names sequence?,
          entry.element.name? = other.element.name? → c.MakesArray entry → c.MakesArray other) →
      c.ArraysSurvive names sequence?) ∧
    (∀ attributes name, ¬ IsMarked name →
      (c.objectSchema names sequence? attributes).properties.value? name =
        (c.objectSchema names sequence? []).properties.value? name) ∧
    ∀ entry ∈ Sequence.optionalFlattening c.registry names sequence?, c.MakesArray entry →
      ∀ name, nonempty? entry.element.name? = some name → ∀ path,
        joinedPath (path ++ [name]) ∈ (CollectedKind.arrays c.options).foundAt c.registry path
          (Sequence.optionalMembers c.registry names sequence?) := by
  refine ⟨arraysSurvive_iff, fun hagree => ?_, fun attributes name hname => ?_,
    fun entry hentry harray name hname path =>
      mem_foundAt_of_makesArray hentry hname harray path⟩
  · rw [arraysSurvive_iff]
    intro entry hentry harray name hname last hlast
    obtain ⟨hmem, hlastName, -⟩ := of_lastWritten? hlast
    refine Or.inl (hagree entry hentry last hmem ?_ harray)
    rw [((nonempty?_eq_some_iff ..).1 hname).1, ((nonempty?_eq_some_iff ..).1 hlastName).1]
  · have hnone : c.declaredAttributes [] = [] := rfl
    rw [objectSchema, objectSchema, hnone, List.append_nil]
    exact value?_declaredProperties_append hname

end Conversion

/-! ## An element that comes back -/

namespace Xsd.Document

/-- An element of a built-in type that occurs once. -/
def onceElement (name : String) : Element :=
  { name? := some name, typeName? := some "xs:string" }

/-- A sequence in which an unbounded element comes back after another one. -/
def returnContent : Sequence :=
  { elements := [repeatedElement "a", onceElement "b", onceElement "a"] }

/-- A schema whose only element has this sequence. -/
def returnSchema : Schema :=
  { elements := [{ name? := some "r", complexType? := some { sequence? := some returnContent } }] }

/-- The document of the schema. -/
def returnDocument : Document := { schema? := some returnSchema }

/-- The object of the sequence: the last declaration of the element is its property. -/
def returnObject : JsonSchema :=
  .object [("a", .node [("type", .text "string")]), ("b", .node [("type", .text "string")])]
    ["a", "b"]

/-- The schema of the document. -/
def returnOutput : JsonSchema :=
  .node [("$schema", .text Dialect.draft202012.schemaUri), ("type", .text "object"),
    ("properties", .named [("r", returnObject)]), ("required", .names ["r"]),
    ("$defs", .named [])]

theorem convertWith_returnDocument :
    convertWith unboundedAsArrays returnDocument = .ok returnOutput := by
  have hwithin : (Conversion.ofDocument unboundedAsArrays returnDocument).emitWithin 20 {}
      returnDocument = some (.ok returnOutput) := rfl
  exact convertWith_eq_of_emitWithin hwithin (by decide)

theorem objectSchema_returnContent :
    (Conversion.ofDocument unboundedAsArrays returnDocument).objectSchema {} (some returnContent)
      [] = returnObject := by
  have hwithin : (Conversion.ofDocument unboundedAsArrays returnDocument).objectWithin 20 {}
      (some returnContent) [] = some returnObject := rfl
  have hregistry : (Conversion.ofDocument unboundedAsArrays returnDocument).registry =
      Registry.ofDocument returnDocument := rfl
  have hreturns :=
    (Conversion.emissionReturns hregistry 20).2.2.1 {} (some returnContent) [] (by decide)
  exact Option.some.inj (hreturns.symm.trans hwithin)

theorem mem_arrayPaths_returnDocument : "r.a" ∈ returnDocument.arrayPaths unboundedAsArrays := by
  refine mem_arrayPaths_iff_schema.2 ⟨returnSchema, rfl, ?_⟩
  have hcollect : Collector.collectWithin 20
      { kind := .arrays unboundedAsArrays, registry := Registry.ofSchema returnSchema }
      returnSchema =
      some { kind := .arrays unboundedAsArrays, registry := Registry.ofSchema returnSchema,
             paths := ["r.a"] } := rfl
  have hschema : returnDocument.schema? = some returnSchema := rfl
  have harrays : returnSchema.arrayPaths unboundedAsArrays (Registry.ofSchema returnSchema) {} =
      ["r.a"] := find_eq_of_collectWithin hschema (by decide) hcollect
  rw [harrays]
  exact List.mem_singleton_self _

/-- **An array that does not survive**: the path of the unbounded element is recorded, and the property
is written for its last occurrence, which is no array. -/
theorem returnDocument_not_arraysSurvive :
    ¬ (Conversion.ofDocument unboundedAsArrays returnDocument).ArraysSurvive {}
        (some returnContent) ∧
      "r.a" ∈ returnDocument.arrayPaths unboundedAsArrays ∧
      ∃ output root property, convertWith unboundedAsArrays returnDocument = .ok output ∧
        output.properties.value? "r" = some root ∧ root.properties.value? "a" = some property ∧
        ¬ property.IsArray := by
  have htext : ¬ (JsonSchema.node [("type", .text "string")]).IsArray := by
    simp [IsArray, JsonSchema.value?, keywords, Fields.value?, Keyword.text]
  refine ⟨fun h => ?_, mem_arrayPaths_returnDocument, returnOutput, returnObject, _,
    convertWith_returnDocument, rfl, rfl, htext⟩
  have hentry : ⟨repeatedElement "a", []⟩ ∈ Sequence.optionalFlattening
      (Conversion.ofDocument unboundedAsArrays returnDocument).registry {}
      (some returnContent) := by
    show _ ∈ returnContent.flattening _ {}
    rw [Sequence.flattening_eq]
    exact List.mem_append_left _ (List.mem_cons_self ..)
  obtain ⟨property, hproperty, harray⟩ := h _ hentry (Or.inr ⟨rfl, rfl, Or.inl rfl⟩) "a" rfl
  rw [objectSchema_returnContent] at hproperty
  cases hproperty
  exact htext harray

end Xsd.Document

end SchemaBridge
