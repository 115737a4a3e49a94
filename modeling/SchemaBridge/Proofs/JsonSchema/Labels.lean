import Mathlib.Logic.Equiv.Basic
import SchemaBridge.Proofs.JsonSchema.Dialects
import SchemaBridge.Proofs.Paths.Relabeling

/-!
# Names of types and groups are labels

Declarations find each other by the names of types and groups, and nothing reads these names. So new
names, different ones for different old ones, leave the paths of arrays and lists as they are. In a
schema document they show in two places: as the names of the definitions, and in what references lead
to (`Json.renameTypes`). The names of groups show nowhere.

Primitive types are known by their names, and so a renaming leaves those alone. Origins are names,
and a type mapping may hold references of its own; the main result on schemas is about conversions
without either (`Document.names_are_labels`).
-/

set_option autoImplicit false

namespace SchemaBridge

open Xsd JsonSchema

/-! ## Schema documents under new names -/

/-- A reference to a definition as one to its new name; any other text as it is. -/
def Dialect.renameReference (dialect : Dialect) (rename : String → String) (text : String) : String :=
  match dialect.referenceStem.toList.isPrefixOf? text.toList with
  | some name => dialect.reference (rename (String.ofList name))
  | none => text

theorem Dialect.renameReference_reference (dialect : Dialect) (rename : String → String)
    (name : String) :
    dialect.renameReference rename (dialect.reference name) = dialect.reference (rename name) := by
  have hname : dialect.referenceStem.toList.isPrefixOf?
      (dialect.referenceStem.toList ++ name.toList) = some name.toList :=
    List.isPrefixOf?_eq_some_iff_append_eq.2 rfl
  simp only [renameReference, reference, String.toList_append, hname, String.ofList_toList]

/-- An object with new names for its fields. -/
def Json.relabelFields (rename : String → String) : Json → Json
  | .obj fields => .obj (Fields.relabel rename id fields)
  | value => value

/-- A schema document with new names for its definitions. -/
def Json.relabelDefinitions (dialect : Dialect) (rename : String → String) : Json → Json
  | .obj fields =>
      .obj (fields.map fun entry =>
        if entry.1 = dialect.definitionsKey then (entry.1, entry.2.relabelFields rename) else entry)
  | value => value

/-- A schema document with new names for its types: for the definitions, and in what the references of
all its schemas lead to. -/
def Json.renameTypes (dialect : Dialect) (rename : String → String) (output : Json) : Json :=
  (output.mapReferences (dialect.renameReference rename)).relabelDefinitions dialect rename

theorem JsonSchema.tableToJson_relabel (rename : String → String) (f : String → String)
    (table : Fields JsonSchema) :
    tableToJson (Fields.relabel rename (JsonSchema.mapReferences f) table) =
      Fields.relabel rename id
        (tableToJson (Fields.relabel id (JsonSchema.mapReferences f) table)) := by
  simp only [tableToJson_eq, Fields.relabel, List.map_map, Function.comp_def, id]

namespace Conversion

variable {r : Renaming} {document : Document} {options : Options}

/-- New names for types that are not primitive change references, where no origins are noted. -/
theorem translates_rename (horigins : options.showOriginTypes = false)
    (hmappings : options.MappingsReferFree)
    (hfixed : ∀ name, (TypeMap.extended options.typeMappings).isPrimitive name = true →
      r.typeName name = name) :
    (ofDocument options document).Translates (ofDocument options (document.rename r)) r
      (options.dialect.renameReference r.typeName) where
  registry := Registry.ofDocument_rename r document
  typeMap := rfl
  policy _ := rfl
  fixed := hfixed
  origin name schema := by
    have hplain : ∀ document typeName, (ofDocument options document).noteOrigin typeName schema =
        schema := fun document typeName => by
      rw [noteOrigin, ofDocument, horigins, if_neg Bool.false_ne_true]
    rw [hplain, hplain]
  reference := options.dialect.renameReference_reference r.typeName
  referFree := mapReferFree_ofDocument hmappings document

theorem toJson_schemaDocument_rename (horigins : options.showOriginTypes = false)
    (hmappings : options.MappingsReferFree)
    (hfixed : ∀ name, (TypeMap.extended options.typeMappings).isPrimitive name = true →
      r.typeName name = name) {schema : Schema} (hschema : document.schema? = some schema) :
    ((ofDocument options (document.rename r)).schemaDocument {} (schema.rename r)).toJson =
      ((ofDocument options document).schemaDocument {} schema).toJson.renameTypes options.dialect
        r.typeName := by
  have hc := Document.registry_ofDocument options hschema
  have hplaced := placed_schemaDocument (mapReferFree_ofDocument hmappings document) hc {}
  have hrenamed := (translates_rename horigins hmappings hfixed).schemaDocument hc {}
  have hempty : OpenNames.rename r {} = {} := rfl
  have hdialect : ∀ document, (ofDocument options document).options.dialect = options.dialect :=
    fun _ => rfl
  rw [hempty] at hrenamed
  rw [Json.renameTypes, ← toJson_mapReferences _ _ hplaced, mapReferences_schemaDocument, hrenamed]
  simp only [toJson, keywordsToJson, Json.relabelDefinitions, List.map_cons, List.map_nil,
    keywordToJson, tableToJson_relabel r.typeName, hdialect]
  -- No other keyword of a document is that of the definitions.
  cases options.dialect <;> simp [Dialect.definitionsKey, Json.relabelFields, keywordToJson,
    Keyword.text]

end Conversion

/-! ## Documents -/

namespace Xsd.Document

/-- **Names of types and groups are labels.** Under new names, the paths of arrays and of lists stay.
Where no origins are noted, no type mapping holds a reference and primitive types keep their names,
a conversion fails with the same error or writes the same document with the types renamed. -/
theorem names_are_labels (document : Document) (options : Options) (r : Renaming) :
    (∀ options?, deriveArrayPaths (document.rename r) options? =
        deriveArrayPaths document options?) ∧
      deriveListPaths (document.rename r) = deriveListPaths document ∧
      (options.showOriginTypes = false → options.MappingsReferFree →
        (∀ name, (TypeMap.extended options.typeMappings).isPrimitive name = true →
          r.typeName name = name) →
        (convertWith options (document.rename r)).map toJson =
          ((convertWith options document).map toJson).map
            (Json.renameTypes options.dialect r.typeName)) := by
  refine ⟨deriveArrayPaths_rename r document, deriveListPaths_rename r document, ?_⟩
  intro horigins hmappings hfixed
  have hmap : ∀ result : Except Failure JsonSchema,
      (result.map toJson).map (Json.renameTypes options.dialect r.typeName) =
        result.map fun output => output.toJson.renameTypes options.dialect r.typeName :=
    fun result => by cases result <;> rfl
  have hempty : OpenNames.rename r {} = {} := rfl
  have houtcome := Conversion.sameOutcome_emitWith (c := Conversion.ofDocument options document)
    (d := Conversion.ofDocument options (document.rename r)) (r := r)
    (R := fun s t => s.toJson.renameTypes options.dialect r.typeName = t.toJson) {} document
    fun schema hschema =>
      (Conversion.toJson_schemaDocument_rename horigins hmappings hfixed hschema).symm
  rw [hempty] at houtcome
  rw [hmap]
  exact houtcome.map_eq.symm

/-- The names of the two types of the price document exchanged. -/
def swappedNames : Renaming where
  typeName := Equiv.swap "Price" "Amount"
  groupName := id
  typeName_injective := (Equiv.swap "Price" "Amount").injective
  groupName_injective := Function.injective_id
  typeName_empty := rfl
  groupName_empty := Renaming.identity.groupName_empty

/-- The schema of the price document with the names of its types exchanged. -/
def swappedPriceOutput : JsonSchema :=
  .node [("$schema", .text Dialect.draft202012.schemaUri), ("type", .text "object"),
    ("properties", .named [("price", .reference "#/$defs/Amount")]), ("required", .names ["price"]),
    ("$defs", .named
      [("Price", .anyOf [.node [("type", .text "number")], .reference "#/$defs/Unknown"]),
        ("Amount", .object [("#text", .reference "#/$defs/Price")] ["#text"])])]

/-- The definitions keep their order and take the exchanged names, as the references to them do. -/
theorem names_are_labels_priceDocument :
    ({} : Options).showOriginTypes = false ∧ ({} : Options).MappingsReferFree ∧
      (∀ name, (TypeMap.extended ({} : Options).typeMappings).isPrimitive name = true →
        swappedNames.typeName name = name) ∧
      (convertWith {} (priceDocument.rename swappedNames)).map toJson =
        .ok swappedPriceOutput.toJson := by
  have hfree : ({} : Options).MappingsReferFree := fun _ h => nomatch h
  have hfixed : ∀ name, (TypeMap.extended ({} : Options).typeMappings).isPrimitive name = true →
      swappedNames.typeName name = name := by
    intro name hprimitive
    apply Equiv.swap_apply_of_ne_of_ne
    · rintro rfl
      revert hprimitive
      decide
    · rintro rfl
      revert hprimitive
      decide
  obtain ⟨-, -, hconvert⟩ := names_are_labels priceDocument {} swappedNames
  have hrenamed : priceOutput.toJson.renameTypes Dialect.draft202012 swappedNames.typeName =
      swappedPriceOutput.toJson := rfl
  refine ⟨rfl, hfree, hfixed, ?_⟩
  rw [hconvert rfl hfree hfixed, convertWith_priceDocument, ← hrenamed]
  rfl

end Xsd.Document

end SchemaBridge
