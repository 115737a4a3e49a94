import SchemaBridge.Proofs.JsonSchema.Depth
import SchemaBridge.Proofs.JsonSchema.Reach

/-!
# Definitions and registered declarations

When a name is declared several times, the later declaration wins. The registry follows this rule for
every kind of declarations. The definitions of a converted schema are written in a loop of their own,
which follows it too, except that a simple type without a schema is passed over: there the last
declaration that has a schema wins.

So the definition under the name of a complex type is always that of the registered declaration, and
the one under the name of a simple type is exactly when the registered declaration has a schema or no
declaration of its name has one (`Document.definitionsAgree_iff`). The exception occurs, in
`amountDocument`.
-/

set_option autoImplicit false

namespace SchemaBridge

open Xsd JsonSchema

namespace Conversion

variable {c : Conversion} {schema : Schema}

/-- A registered simple type with a schema is the one that is written. -/
theorem value?_writtenSimpleTypes_of_isSome (hc : c.registry = Registry.ofSchema schema)
    {name : String} {type : SimpleType} (h : c.registry.simpleTypes.value? name = some type)
    (hsome : (c.simpleTypeSchema? type).isSome) :
    (c.writtenSimpleTypes schema).value? name = some type := by
  rw [hc] at h
  exact value?_indexByName_filter h hsome

/-- No simple type is written under a name exactly when none of its declarations has a schema. -/
theorem value?_writtenSimpleTypes_eq_none_iff {name : String} :
    (c.writtenSimpleTypes schema).value? name = none ↔
      ∀ type ∈ schema.simpleTypes, nonempty? type.name? = some name →
        c.simpleTypeSchema? type = none := by
  unfold writtenSimpleTypes
  rw [value?_indexByName_eq_none_iff]
  constructor
  · intro h type htype hname
    cases hschema : c.simpleTypeSchema? type with
    | none => rfl
    | some s => exact absurd hname (h type (List.mem_filter.2 ⟨htype, by rw [hschema]; rfl⟩))
  · intro h type htype hname
    obtain ⟨hmem, hsome⟩ := List.mem_filter.1 htype
    rw [h type hmem hname] at hsome
    cases hsome

/-- The definition under the name of a registered simple type is that type's schema exactly when the
type has one or no type of the name does. -/
theorem value?_definitions_eq_simpleTypeSchema?_iff (hc : c.registry = Registry.ofSchema schema)
    {name : String} {type : SimpleType} (hcomplex : c.registry.complexTypes.value? name = none)
    (h : c.registry.simpleTypes.value? name = some type) :
    (c.definitions {} schema).value? name = c.simpleTypeSchema? type ↔
      (c.simpleTypeSchema? type).isSome ∨ ∀ other ∈ schema.simpleTypes,
        nonempty? other.name? = some name → c.simpleTypeSchema? other = none := by
  rw [value?_definitions hc, hcomplex, ← value?_writtenSimpleTypes_eq_none_iff]
  simp only
  cases hschema : c.simpleTypeSchema? type with
  | some definition =>
      have hwritten := value?_writtenSimpleTypes_of_isSome hc h (by rw [hschema]; rfl)
      simp [hwritten, hschema]
  | none =>
      constructor
      · intro hnone
        cases hwritten : (c.writtenSimpleTypes schema).value? name with
        | none => exact Or.inr rfl
        | some other =>
            -- What is written has a schema, so the definition would be there.
            have hsome := (List.mem_filter.1 (mem_of_value?_indexByName hwritten).1).2
            rw [hwritten, Option.bind_some] at hnone
            rw [hnone] at hsome
            cases hsome
      · rintro (hsome | hnone)
        · cases hsome
        · rw [hnone]
          rfl

end Conversion

namespace Xsd.Document

variable {options : Options} {document : Document}

/-- The definition under the name of every registered complex type is the schema of that type. -/
def ComplexDefinitionsAgree (document : Document) (options : Options) : Prop :=
  ∀ output, convertWith options document = .ok output →
    ∀ name type, (Registry.ofDocument document).complexTypes.value? name = some type →
      (output.definitionsIn options.dialect).value? name =
        some ((Conversion.ofDocument options document).complexTypeSchema {} type)

/-- The definition under the name of every registered simple type, unless a complex type has the
name, is the schema of that type, and missing when the type has none. -/
def SimpleDefinitionsAgree (document : Document) (options : Options) : Prop :=
  ∀ output, convertWith options document = .ok output →
    ∀ name type, (Registry.ofDocument document).complexTypes.value? name = none →
      (Registry.ofDocument document).simpleTypes.value? name = some type →
      (output.definitionsIn options.dialect).value? name =
        (Conversion.ofDocument options document).simpleTypeSchema? type

/-- The definitions of a document are those of its registered declarations. -/
def DefinitionsAgree (document : Document) (options : Options) : Prop :=
  document.ComplexDefinitionsAgree options ∧ document.SimpleDefinitionsAgree options

/-- Of several simple types with one name the last one has a schema, or none has. -/
def LastSimpleTypesResolve (document : Document) (options : Options) : Prop :=
  ∀ schema, document.schema? = some schema → schema.elements ≠ [] →
    ∀ name type, (Registry.ofDocument document).complexTypes.value? name = none →
      (Registry.ofDocument document).simpleTypes.value? name = some type →
      ((Conversion.ofDocument options document).simpleTypeSchema? type).isSome ∨
        ∀ other ∈ schema.simpleTypes, nonempty? other.name? = some name →
          (Conversion.ofDocument options document).simpleTypeSchema? other = none

/-- The definitions of a converted document. -/
theorem definitionsIn_of_convertWith {output : JsonSchema}
    (houtput : convertWith options document = .ok output) :
    ∃ schema, document.schema? = some schema ∧ schema.elements ≠ [] ∧
      output.definitionsIn options.dialect =
        (Conversion.ofDocument options document).definitions {} schema := by
  obtain ⟨schema, hschema, hroots, rfl⟩ := convertWith_eq_ok_iff.1 houtput
  exact ⟨schema, hschema, hroots, Conversion.definitionsIn_schemaDocument {} schema⟩

theorem complexDefinitionsAgree : document.ComplexDefinitionsAgree options := by
  intro output houtput name type htype
  obtain ⟨schema, hschema, -, hdefinitions⟩ := definitionsIn_of_convertWith houtput
  have hregistry : (Conversion.ofDocument options document).registry =
      Registry.ofDocument document := rfl
  rw [hdefinitions, Conversion.value?_definitions (registry_ofDocument options hschema), hregistry,
    htype]

theorem simpleDefinitionsAgree_iff :
    document.SimpleDefinitionsAgree options ↔ document.LastSimpleTypesResolve options := by
  constructor
  · intro h schema hschema hroots name type hcomplex hsimple
    have houtput : convertWith options document =
        .ok ((Conversion.ofDocument options document).schemaDocument {} schema) :=
      convertWith_eq_ok_iff.2 ⟨schema, hschema, hroots, rfl⟩
    have hagree := h _ houtput name type hcomplex hsimple
    obtain ⟨found, hfound, -, hdefinitions⟩ := definitionsIn_of_convertWith houtput
    cases hschema.symm.trans hfound
    rw [hdefinitions] at hagree
    exact (Conversion.value?_definitions_eq_simpleTypeSchema?_iff
      (registry_ofDocument options hschema) hcomplex hsimple).1 hagree
  · intro h output houtput name type hcomplex hsimple
    obtain ⟨schema, hschema, hroots, hdefinitions⟩ := definitionsIn_of_convertWith houtput
    rw [hdefinitions]
    exact (Conversion.value?_definitions_eq_simpleTypeSchema?_iff
      (registry_ofDocument options hschema) hcomplex hsimple).2
      (h schema hschema hroots name type hcomplex hsimple)

/-- **Definitions agree with the registry** for every complex type, and for all types exactly when no
simple type without a schema comes after one of the same name that has a schema. -/
theorem definitionsAgree_iff :
    document.ComplexDefinitionsAgree options ∧
      (document.DefinitionsAgree options ↔ document.LastSimpleTypesResolve options) := by
  refine ⟨complexDefinitionsAgree, ?_⟩
  rw [← simpleDefinitionsAgree_iff]
  exact ⟨And.right, fun h => ⟨complexDefinitionsAgree, h⟩⟩

/-- A simple type with a given base. -/
def restricted (name base : String) : SimpleType :=
  { name? := some name, restriction? := some { base? := some base } }

/-- A document that declares a simple type twice; the later declaration restricts an unknown type. -/
def amountDocument : Document :=
  { schema? := some
      { elements := [{ name? := some "amount", typeName? := some "xs:string" }]
        simpleTypes := [restricted "Amount" "xs:decimal", restricted "Amount" "Unknown"] } }

/-- The schema of the document: the earlier declaration is its definition. -/
def amountOutput : JsonSchema :=
  .node [("$schema", .text Dialect.draft202012.schemaUri), ("type", .text "object"),
    ("properties", .named [("amount", .node [("type", .text "string")])]),
    ("required", .names ["amount"]),
    ("$defs", .named [("Amount", .node [("type", .text "number")])])]

theorem convertWith_amountDocument : convertWith {} amountDocument = .ok amountOutput := by
  have hwithin : (Conversion.ofDocument {} amountDocument).emitWithin 20 {} amountDocument =
      some (.ok amountOutput) := rfl
  exact convertWith_eq_of_emitWithin hwithin (by decide)

/-- **A definition of a declaration that does not win**: the later one has no schema, and the earlier
one stays. -/
theorem amountDocument_not_definitionsAgree : ¬ amountDocument.DefinitionsAgree {} := by
  rintro ⟨-, hsimple⟩
  have hagree := hsimple amountOutput convertWith_amountDocument "Amount"
    (restricted "Amount" "Unknown") rfl rfl
  have hnone : (Conversion.ofDocument {} amountDocument).simpleTypeSchema?
      (restricted "Amount" "Unknown") = none := by
    rw [Conversion.simpleTypeSchema?_of_no_list _ rfl]
    rfl
  rw [hnone] at hagree
  cases hagree

end Xsd.Document

end SchemaBridge
