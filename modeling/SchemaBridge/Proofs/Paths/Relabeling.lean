import SchemaBridge.Proofs.Paths.Chain
import SchemaBridge.Proofs.Paths.Depth
import SchemaBridge.Proofs.Xsd.Renaming

/-!
# Paths under new names

A path is made of the names of elements. The names of types and groups only lead from one declaration
to the next, so new names for them change which names are open on the way and nothing else
(`visitsBelow_rename`): the paths of arrays and of lists stay (`Document.deriveArrayPaths_rename`,
`Document.deriveListPaths_rename`), in circles too.
-/

set_option autoImplicit false

namespace SchemaBridge

open Xsd

variable (r : Renaming)

/-- A visit with the names of types and groups renamed; the path stays. -/
def Visit.rename (v : Visit) : Visit := { v with member := v.member.rename r }

theorem visitsBelow_rename (registry : Registry) (path : List String) (inSequence : Bool)
    (m : Member) :
    visitsBelow (registry.rename r) path inSequence (m.rename r) =
      (visitsBelow registry path inSequence m).map (Visit.rename r) := by
  -- The induction is on the walk: it goes down from an element to the members of its content.
  induction path, inSequence, m using visitsBelow.induct registry with
  | case1 path inSequence m hname =>
      rw [visitsBelow_eq, visitsBelow_eq, Member.rename, Element.rename_name?, hname]
      rfl
  | case2 path inSequence m name hname ih =>
      have hmembers : (m.rename r).element.contentMembers (registry.rename r) (m.rename r).names =
          (m.element.contentMembers registry m.names).map (Member.rename r) :=
        m.element.contentMembers_rename r registry m.names
      have hbelow : ∀ below ∈ m.element.contentMembers registry m.names,
          visitsBelow (registry.rename r) (path ++ [name]) true (below.rename r) =
            (visitsBelow registry (path ++ [name]) true below).map (Visit.rename r) :=
        fun below hmem => ih ⟨below, hmem⟩
      have hrenamed : nonempty? (m.rename r).element.name? = some name := by
        rw [Member.rename, Element.rename_name?, hname]
      rw [visitsBelow_eq, visitsBelow_eq, hrenamed, hname]
      simp only [List.map_cons, hmembers, List.flatMap_map, List.map_flatMap]
      congr 1
      exact List.flatMap_congr hbelow

theorem Visit.isArray_rename (options : Options) (v : Visit) :
    (v.rename r).isArray options = v.isArray options := by
  rw [isArray, isArray, rename, Member.rename, Options.isArrayElement, Options.isArrayElement,
    Element.rename_occurs, Element.rename_name?]

theorem Xsd.SimpleType.base?_rename (type : SimpleType) :
    (type.rename r).restriction?.bind Restriction.base? =
      (type.restriction?.bind Restriction.base?).map r.typeName := by
  rw [SimpleType.rename_restriction?]
  cases type.restriction? <;> rfl

/-- A chain of restrictions ends at the same list, renamed. -/
theorem resolveListType?_rename (registry : Registry) (names : OpenNames) (type : SimpleType) :
    resolveListType? (registry.rename r) (names.rename r) (type.rename r) =
      (resolveListType? registry names type).map (ListType.rename r) := by
  induction names, type using resolveListType?.induct registry with
  | case1 names type list hlist =>
      rw [resolveListType?_eq, resolveListType?_eq, SimpleType.rename_list?, hlist]
      rfl
  | case2 names type hlist base? hrefused =>
      have hbase : registry.enterSimpleType? names (type.restriction?.bind Restriction.base?) =
          none := hrefused
      rw [resolveListType?_eq, resolveListType?_eq, SimpleType.rename_list?, hlist,
        SimpleType.base?_rename, Registry.enterSimpleType?_rename, hbase]
      rfl
  | case3 names type hlist base? inner base hentered ih =>
      have hbase : registry.enterSimpleType? names (type.restriction?.bind Restriction.base?) =
          some (inner, base) := hentered
      rw [resolveListType?_eq, resolveListType?_eq, SimpleType.rename_list?, hlist,
        SimpleType.base?_rename, Registry.enterSimpleType?_rename, hbase]
      exact ih

theorem Registry.simpleType?_rename (registry : Registry) (name? : Option String) :
    (registry.rename r).simpleType? (name?.map r.typeName) =
      (registry.simpleType? name?).map (SimpleType.rename r) := by
  unfold Registry.simpleType?
  rw [r.nonempty?_typeName]
  cases nonempty? name? with
  | none => rfl
  | some name => exact Fields.value?_relabel r.typeName_injective _ registry.simpleTypes name

theorem Visit.isList_rename (registry : Registry) (v : Visit) :
    (v.rename r).isList (registry.rename r) = v.isList registry := by
  have hinline : (v.rename r).member.element.simpleType?.bind SimpleType.list? =
      (v.member.element.simpleType?.bind SimpleType.list?).map (ListType.rename r) := by
    rw [rename, Member.rename, Element.rename_simpleType?]
    cases v.member.element.simpleType? with
    | none => rfl
    | some type => exact type.rename_list? r
  have hnamed : ((registry.rename r).simpleType? (v.rename r).member.element.typeName?).bind
        (resolveListType? (registry.rename r) (v.rename r).member.names) =
      ((registry.simpleType? v.member.element.typeName?).bind
        (resolveListType? registry v.member.names)).map (ListType.rename r) := by
    rw [rename, Member.rename, Element.rename_typeName?, Registry.simpleType?_rename]
    cases registry.simpleType? v.member.element.typeName? with
    | none => rfl
    | some type => exact resolveListType?_rename r registry v.member.names type
  rw [isList, isList, hinline, hnamed, Option.isSome_map, Option.isSome_map]

namespace Xsd

theorem Schema.visits_rename (registry : Registry) (names : OpenNames) (schema : Schema) :
    (schema.rename r).visits (registry.rename r) (names.rename r) =
      (schema.visits registry names).map (Visit.rename r) := by
  unfold Schema.visits Schema.rename
  rw [List.flatMap_map, List.map_flatMap]
  exact List.flatMap_congr fun element _ =>
    visitsBelow_rename r registry [] false { element, names }

/-- The renamed visits that meet a renamed condition have the paths of those that meet it. -/
theorem map_path_filter_rename (visits : List Visit) {keep keep' : Visit → Bool}
    (hkeep : ∀ v, keep' (v.rename r) = keep v) :
    ((visits.map (Visit.rename r)).filter keep').map (fun v => joinedPath v.path) =
      (visits.filter keep).map fun v => joinedPath v.path := by
  rw [List.filter_map, List.map_map]
  have hcomp : keep' ∘ Visit.rename r = keep := funext hkeep
  rw [hcomp]
  rfl

theorem Schema.arrayPaths_rename (options : Options) (registry : Registry) (names : OpenNames)
    (schema : Schema) :
    (schema.rename r).arrayPaths options (registry.rename r) (names.rename r) =
      schema.arrayPaths options registry names := by
  rw [Schema.arrayPaths, Schema.arrayPaths, Schema.visits_rename]
  exact map_path_filter_rename r _ (Visit.isArray_rename r options)

theorem Schema.listPaths_rename (registry : Registry) (names : OpenNames) (schema : Schema) :
    (schema.rename r).listPaths (registry.rename r) (names.rename r) =
      schema.listPaths registry names := by
  rw [Schema.listPaths, Schema.listPaths, Schema.visits_rename]
  exact map_path_filter_rename r _ (Visit.isList_rename r registry)

theorem rootedSchema?_rename (document : Document) :
    rootedSchema? (document.rename r) = (rootedSchema? document).map (Schema.rename r) := by
  obtain ⟨schema?⟩ := document
  cases schema? with
  | none => rfl
  | some schema =>
      simp only [rootedSchema?, Document.rename, Option.map_some, Option.filter_some, Schema.rename,
        List.isEmpty_map]
      split <;> rfl

namespace Document

/-- New names for types and groups leave the paths of arrays as they are. -/
theorem deriveArrayPaths_rename (document : Document) (options? : Option (Fields Json)) :
    deriveArrayPaths (document.rename r) options? = deriveArrayPaths document options? := by
  have hpaths : ∀ options, (document.rename r).arrayPaths options = document.arrayPaths options := by
    intro options
    unfold Document.arrayPaths
    rw [rootedSchema?_rename]
    cases rootedSchema? document with
    | none => rfl
    | some schema =>
        have hregistry := Registry.ofSchema_rename r schema
        simp only [Option.map_some, hregistry]
        exact Schema.arrayPaths_rename r options (Registry.ofSchema schema) {} schema
  unfold deriveArrayPaths
  rw [rootedSchema?_rename]
  cases rootedSchema? document with
  | none => rfl
  | some schema => simp only [Option.map_some, hpaths]

/-- New names for types and groups leave the paths of lists as they are. -/
theorem deriveListPaths_rename (document : Document) :
    deriveListPaths (document.rename r) = deriveListPaths document := by
  unfold deriveListPaths
  rw [rootedSchema?_rename]
  cases rootedSchema? document with
  | none => rfl
  | some schema =>
      simp only [Option.map_some, Registry.ofSchema_rename]
      exact Schema.listPaths_rename r (Registry.ofSchema schema) {} schema

end Document

end Xsd

end SchemaBridge
