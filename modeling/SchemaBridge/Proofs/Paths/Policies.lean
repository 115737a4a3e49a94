import SchemaBridge.Proofs.Paths.Unions

/-!
# Array paths and policies

A collector of array paths asks its policy at every element, and at every reference to a group it
passes on whether arrays are made of what is below. The policy does not say where the collector goes:
the visits are the same under all policies, and each visit is judged by itself
(`Document.mem_collectedPaths_iff_visit`).

So the paths grow with the policy. Without the flag they are those of the names one by one; with it
the names do not matter, and all paths without it are among those with it
(`Document.collectedPaths_of_policy`).
-/

set_option autoImplicit false

namespace SchemaBridge

open Xsd

namespace Options

/-- The options with another policy: whether all unbounded elements become arrays, and the names of
those that do otherwise. -/
def withPolicy (options : Options) (unbounded : Bool) (names : List String) : Options :=
  { options with arrayElementNames := names, treatUnboundedAsArray := unbounded }

/-- A policy written in a table of named values. -/
def policyFields (unbounded : Bool) (names : List String) : Fields Json :=
  [("array_element_names", .arr (names.map .str)), ("treat_unbounded_as_array", .bool unbounded)]

/-- A table with a policy alone sets nothing else. -/
theorem resolve_policyFields (unbounded : Bool) (names : List String) :
    resolve (some (policyFields unbounded names)) =
      .ok (({} : Options).withPolicy unbounded names) := by
  have hnames : (names.map Json.str).map Json.plain = names := by
    simp [Function.comp_def, Json.plain]
  have hfields : resolve (some (policyFields unbounded names)) =
      .ok { arrayElementNames := (names.map Json.str).map Json.plain,
            treatUnboundedAsArray := unbounded } := rfl
  rw [hfields, hnames]
  rfl

/-- Without the flag an element is taken by its name, references above it or not. -/
theorem classifies_without_flag (options : Options) (names : List String) (element : Element)
    (inSequence repeats : Bool) :
    (options.withPolicy false names).Classifies element inSequence repeats ↔
      inSequence = true ∧ element.occurs.max? = some "unbounded" ∧
        ∃ name ∈ names, element.name? = some name := by
  simp [Classifies, withPolicy]

/-- With the flag an element is taken whatever its name is. -/
theorem classifies_with_flag (options : Options) (names : List String) (element : Element)
    (inSequence repeats : Bool) :
    (options.withPolicy true names).Classifies element inSequence repeats ↔
      repeats = true ∨ inSequence = true ∧ element.occurs.max? = some "unbounded" := by
  simp [Classifies, withPolicy]

end Options

namespace Xsd.Document

variable {options : Options} {document : Document} {path : String}

/-- The paths of a new collector that collects the schema of a document; none without a top-level
element. -/
def collectedPaths (options : Options) (document : Document) : List String :=
  match rootedSchema? document with
  | none => []
  | some schema =>
      let collector : Collector := { kind := .arrays options, registry := .ofSchema schema }
      (collector.step (.collect schema)).1.paths

/-- The paths that are collected are those that are derived. -/
theorem mem_collectedPaths_iff :
    path ∈ document.collectedPaths options ↔ path ∈ document.arrayPaths options := by
  unfold collectedPaths arrayPaths
  cases hrooted : rootedSchema? document with
  | none => exact Iff.rfl
  | some schema =>
      -- Deriving lists the visits that match; the collector walks, and finds the same.
      exact Collector.mem_collect_iff { kind := .arrays options, registry := .ofSchema schema }
        (Registry.typesNamed_ofSchema schema) schema path

/-- **Each visit is judged by itself**: the paths are those of the visits of the schema that the
options make an array of, and the visits do not depend on the options. -/
theorem mem_collectedPaths_iff_visit :
    path ∈ document.collectedPaths options ↔
      ∃ schema v, document.schema? = some schema ∧
        v ∈ schema.visits (Registry.ofSchema schema) {} ∧ joinedPath v.path = path ∧
        options.Classifies v.member.element v.inSequence v.member.repeats := by
  rw [mem_collectedPaths_iff, mem_arrayPaths_iff_schema]
  simp only [Schema.arrayPaths, List.mem_map, List.mem_filter, Visit.isArray,
    ← Options.classifies_iff]
  constructor
  · rintro ⟨schema, hschema, v, ⟨hv, hclassifies⟩, hpath⟩
    exact ⟨schema, v, hschema, hv, hpath, hclassifies⟩
  · rintro ⟨schema, v, hschema, hv, hpath, hclassifies⟩
    exact ⟨schema, hschema, v, ⟨hv, hclassifies⟩, hpath⟩

/-- Without the flag the paths are those of the unbounded elements in sequences that the policy
names. -/
theorem mem_collectedPaths_without_flag {base : Options} {names : List String} :
    path ∈ document.collectedPaths (base.withPolicy false names) ↔
      ∃ schema v, document.schema? = some schema ∧
        v ∈ schema.visits (Registry.ofSchema schema) {} ∧ joinedPath v.path = path ∧
        v.inSequence = true ∧ v.member.element.occurs.max? = some "unbounded" ∧
        ∃ name ∈ names, v.member.element.name? = some name := by
  simp only [mem_collectedPaths_iff_visit, Options.classifies_without_flag]

/-- With the flag the paths are those of all unbounded elements in sequences, and of the elements
below a reference that repeats. -/
theorem mem_collectedPaths_with_flag {base : Options} {names : List String} :
    path ∈ document.collectedPaths (base.withPolicy true names) ↔
      ∃ schema v, document.schema? = some schema ∧
        v ∈ schema.visits (Registry.ofSchema schema) {} ∧ joinedPath v.path = path ∧
        (v.member.repeats = true ∨
          v.inSequence = true ∧ v.member.element.occurs.max? = some "unbounded") := by
  simp only [mem_collectedPaths_iff_visit, Options.classifies_with_flag]

theorem mem_collectedPaths_append {base : Options} {first second : List String} :
    path ∈ document.collectedPaths (base.withPolicy false (first ++ second)) ↔
      path ∈ document.collectedPaths (base.withPolicy false first) ∨
        path ∈ document.collectedPaths (base.withPolicy false second) := by
  simp only [mem_collectedPaths_without_flag, List.mem_append]
  constructor
  · rintro ⟨schema, v, hschema, hv, hpath, hin, hmax, name, hname | hname, heq⟩
    · exact Or.inl ⟨schema, v, hschema, hv, hpath, hin, hmax, name, hname, heq⟩
    · exact Or.inr ⟨schema, v, hschema, hv, hpath, hin, hmax, name, hname, heq⟩
  · rintro (⟨schema, v, hschema, hv, hpath, hin, hmax, name, hname, heq⟩ |
      ⟨schema, v, hschema, hv, hpath, hin, hmax, name, hname, heq⟩)
    · exact ⟨schema, v, hschema, hv, hpath, hin, hmax, name, Or.inl hname, heq⟩
    · exact ⟨schema, v, hschema, hv, hpath, hin, hmax, name, Or.inr hname, heq⟩

theorem collectedPaths_no_names (document : Document) (base : Options) :
    document.collectedPaths (base.withPolicy false []) = [] := by
  refine List.eq_nil_iff_forall_not_mem.2 fun path h => ?_
  obtain ⟨schema, v, -, -, -, -, -, name, hname, -⟩ := mem_collectedPaths_without_flag.1 h
  cases hname

/-- What is derived for a policy alone is what is collected for it under any other options. -/
theorem exists_derived_of_policy (document : Document) (base : Options) (unbounded : Bool)
    (names : List String) :
    ∃ derived,
      deriveArrayPaths document (some (Options.policyFields unbounded names)) = .ok derived ∧
        ∀ path, path ∈ derived ↔
          path ∈ document.collectedPaths (base.withPolicy unbounded names) := by
  refine ⟨document.arrayPaths (({} : Options).withPolicy unbounded names), ?_, fun path => ?_⟩
  · unfold deriveArrayPaths
    cases hrooted : rootedSchema? document with
    | none => simp only [arrayPaths, hrooted]
    | some schema => rw [Options.resolve_policyFields, Except.map]
  · -- A visit is judged by the policy alone.
    rw [← mem_collectedPaths_iff]
    simp only [mem_collectedPaths_iff_visit]
    rfl

/-- **Array paths are monotone and additive in the policy.** Without the flag, the paths for two lists
of names together are those for the first and those for the second; the order and the repetition of
names do not matter, and there are none without names. With the flag the names do not matter, and
all paths without the flag are among those with it. Other options do not matter either, and what is
derived for a policy alone are these paths. -/
theorem collectedPaths_of_policy (document : Document) (base : Options) :
    let paths := fun unbounded names => document.collectedPaths (base.withPolicy unbounded names)
    (∀ first second path, path ∈ paths false (first ++ second) ↔
      path ∈ paths false first ∨ path ∈ paths false second) ∧
    (∀ names others, (∀ name, name ∈ names ↔ name ∈ others) →
      ∀ path, path ∈ paths false names ↔ path ∈ paths false others) ∧
    paths false [] = [] ∧
    (∀ names others path, path ∈ paths true names ↔ path ∈ paths true others) ∧
    (∀ names path, path ∈ paths false names → path ∈ paths true names) ∧
    ∀ unbounded names, ∃ derived,
      deriveArrayPaths document (some (Options.policyFields unbounded names)) = .ok derived ∧
        ∀ path, path ∈ derived ↔ path ∈ paths unbounded names := by
  intro paths
  refine ⟨fun first second path => mem_collectedPaths_append,
    fun names others hmem path => ?_, collectedPaths_no_names document base,
    fun names others path => ?_, fun names path h => ?_, exists_derived_of_policy document base⟩
  · simp only [paths, mem_collectedPaths_without_flag, hmem]
  · -- With the flag neither side speaks of names.
    simp only [paths, mem_collectedPaths_with_flag]
  · obtain ⟨schema, v, hschema, hv, hpath, hin, hmax, -⟩ := mem_collectedPaths_without_flag.1 h
    exact mem_collectedPaths_with_flag.2 ⟨schema, v, hschema, hv, hpath, Or.inr ⟨hin, hmax⟩⟩

end Xsd.Document

end SchemaBridge
