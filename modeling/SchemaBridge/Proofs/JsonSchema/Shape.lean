import SchemaBridge.Proofs.JsonSchema.Depth
import SchemaBridge.Proofs.JsonSchema.Nodes

/-!
# Required names are properties

A schema says which of its properties must be present by listing their names. In a converted schema
such a list never stands alone: the node that has it has properties too, no name is listed twice, and
every listed name is that of a property of the same node (`JsonSchema.RequiresProperties`).

Objects are where the names come from: the required names are those of some of the declared
properties, and each declared property is written, whether or not another one of its name is
(`Conversion.requiresProperties_object`). Every other step of the conversion either writes neither
keyword or keeps both, and so the law holds of every node
(`Document.requiresProperties_of_contains`).
-/

set_option autoImplicit false

namespace SchemaBridge

open Xsd JsonSchema

/-! ## Names in order of first occurrence -/

theorem addNames_cons (known : List String) (name : String) (rest : List String) :
    addNames known (name :: rest) =
      addNames (if known.contains name then known else known ++ [name]) rest := rfl

theorem mem_addNames {known names : List String} {name : String} :
    name ∈ addNames known names ↔ name ∈ known ∨ name ∈ names := by
  induction names generalizing known with
  | nil => simp [addNames]
  | cons first rest ih =>
      rw [addNames_cons, ih, List.mem_cons, ← or_assoc]
      refine or_congr_left ?_
      split
      · -- The first name is known already.
        rename_i hknown
        rw [List.contains_iff_mem] at hknown
        exact ⟨Or.inl, fun h => h.elim id fun heq => heq ▸ hknown⟩
      · rw [List.mem_append, List.mem_singleton]

theorem nodup_addNames {known names : List String} (h : known.Nodup) :
    (addNames known names).Nodup := by
  induction names generalizing known with
  | nil => exact h
  | cons first rest ih =>
      rw [addNames_cons]
      apply ih
      split
      · exact h
      · rename_i hnew
        rw [List.contains_iff_mem] at hnew
        refine List.nodup_append.2 ⟨h, by simp, ?_⟩
        intro name hname other hother heq
        rw [List.mem_singleton.1 hother] at heq
        exact hnew (heq ▸ hname)

/-- A required name is an earlier one or that of a declaration that requires it. -/
theorem mem_declaredRequired {earlier : List String} {declared : List Declared} {name : String} :
    name ∈ declaredRequired earlier declared ↔
      name ∈ earlier ∨ ∃ d ∈ declared, d.required = true ∧ d.name = name := by
  unfold declaredRequired
  rw [mem_addNames, List.mem_map]
  simp only [List.mem_filter, and_assoc]

theorem mem_names_declaredProperties {earlier : Fields JsonSchema} {declared : List Declared}
    {name : String} :
    name ∈ Fields.names (declaredProperties earlier declared) ↔
      name ∈ Fields.names earlier ∨ ∃ d ∈ declared, d.name = name := by
  unfold declaredProperties
  rw [Fields.mem_names_update]
  refine or_congr_right ?_
  rw [Fields.names, List.map_map, List.mem_map]
  rfl

/-! ## The law -/

/-- A schema with a list of required names has properties, lists no name twice, and lists names of
properties only. -/
def JsonSchema.RequiresProperties (node : JsonSchema) : Prop :=
  ∀ keyword, node.value? "required" = some keyword →
    ∃ required properties, keyword = .names required ∧
      node.value? "properties" = some (.named properties) ∧ required.Nodup ∧
      ∀ name ∈ required, name ∈ Fields.names properties

/-- A schema that requires nothing meets the law. -/
theorem JsonSchema.requiresProperties_of_keywords {node : JsonSchema}
    (h : ∀ entry ∈ node.keywords, entry.1 ≠ "required") : node.RequiresProperties := by
  intro keyword hkeyword
  exact absurd rfl (h _ (Fields.mem_of_value? hkeyword))

/-- The law is about two keywords. -/
theorem JsonSchema.RequiresProperties.congr {node other : JsonSchema}
    (h : node.RequiresProperties) (hrequired : other.value? "required" = node.value? "required")
    (hproperties : other.value? "properties" = node.value? "properties") :
    other.RequiresProperties := by
  intro keyword hkeyword
  rw [hrequired] at hkeyword
  rw [hproperties]
  exact h keyword hkeyword

namespace Conversion

variable {c : Conversion} {schema : Schema}

/-- **An object requires declared properties only**: every declaration that makes a name required
makes a property of it. -/
theorem requiresProperties_tables {node : JsonSchema} {earlier : Fields JsonSchema}
    {declared : List Declared} (hnodup : (Fields.names earlier).Nodup)
    (hproperties : node.value? "properties" = some (.named (declaredProperties earlier declared)))
    (hrequired : node.value? "required" =
      some (.names (declaredRequired (Fields.names earlier) declared))) :
    node.RequiresProperties := by
  intro keyword hkeyword
  rw [hrequired, Option.some.injEq] at hkeyword
  refine ⟨_, _, hkeyword.symm, hproperties, nodup_addNames hnodup, fun name hname => ?_⟩
  rcases mem_declaredRequired.1 hname with hearlier | ⟨d, hd, -, rfl⟩
  · exact mem_names_declaredProperties.2 (Or.inl hearlier)
  · exact mem_names_declaredProperties.2 (Or.inr ⟨d, hd, rfl⟩)

theorem requiresProperties_object (earlier : Fields JsonSchema) (declared : List Declared)
    (hnodup : (Fields.names earlier).Nodup) :
    (JsonSchema.object (declaredProperties earlier declared)
      (declaredRequired (Fields.names earlier) declared)).RequiresProperties :=
  requiresProperties_tables hnodup rfl rfl

/-- A complex type is written with both keywords or with neither. -/
theorem value?_complexTypeSchema (names : OpenNames) (type : ComplexType) :
    (∀ keyword ∈ ["properties", "required"],
      Fields.value? (Fields.ofEntries (c.complexTypeSchema names type).keywords) keyword = none) ∨
    ∀ keyword ∈ ["properties", "required"],
      Fields.value? (Fields.ofEntries (c.complexTypeSchema names type).keywords) keyword =
        (c.complexTypeSchema names type).value? keyword ∧
      ((c.complexTypeSchema names type).value? keyword).isSome := by
  have hobject : ∀ table required, ∀ keyword ∈ ["properties", "required"],
      Fields.value? (Fields.ofEntries (JsonSchema.object table required).keywords) keyword =
        (JsonSchema.object table required).value? keyword ∧
      ((JsonSchema.object table required).value? keyword).isSome := by
    intro table required keyword hkeyword
    simp only [List.mem_cons, List.not_mem_nil, or_false] at hkeyword
    rcases hkeyword with rfl | rfl <;> exact ⟨rfl, rfl⟩
  rw [complexTypeSchema_eq]
  split
  · exact Or.inl fun _ _ => rfl
  · unfold contentSchema
    cases contentShape type with
    | extended base extension =>
        refine Or.inl fun keyword hkeyword => ?_
        simp only [List.mem_cons, List.not_mem_nil, or_false] at hkeyword
        rcases hkeyword with rfl | rfl <;> rfl
    | text base extension => exact Or.inr (hobject _ _)
    | plain sequence? => exact Or.inr (hobject _ _)

/-- Laying a complex type over other keywords keeps the law: it replaces both lists or neither. -/
theorem requiresProperties_update {keywords : JsonSchema} {names : OpenNames} {type : ComplexType}
    (hkeywords : keywords.RequiresProperties)
    (hcomplex : (c.complexTypeSchema names type).RequiresProperties) :
    (keywords.update (c.complexTypeSchema names type)).RequiresProperties := by
  rcases value?_complexTypeSchema names type with hnone | hsome
  · refine hkeywords.congr ?_ ?_
    · rw [value?_update, hnone "required" (by simp), Option.none_or]
    · rw [value?_update, hnone "properties" (by simp), Option.none_or]
  · have hover : ∀ keyword ∈ ["properties", "required"],
        (keywords.update (c.complexTypeSchema names type)).value? keyword =
          (c.complexTypeSchema names type).value? keyword := by
      intro keyword hkeyword
      obtain ⟨heq, hisSome⟩ := hsome keyword hkeyword
      rw [value?_update, heq, Option.or_of_isSome hisSome]
    exact hcomplex.congr (hover "required" (by simp)) (hover "properties" (by simp))

/-- A built-in type requires nothing. -/
theorem ne_required_of_mem_builtin {typeName : String} {entry : String × Json}
    (h : entry ∈ TypeMap.builtin.keywords typeName) : entry.1 ≠ "required" := by
  obtain ⟨b, hb⟩ := TypeMap.exists_of_mem_builtin h
  have hmapping : ∀ entry ∈ b.mapping, entry.1 ≠ "required" := by
    cases b <;> simp [Builtin.mapping, Builtin.ofType, Builtin.ofFormat, Builtin.boundedAtZero]
  exact hmapping entry hb

theorem TypeEntry.ne_required (hmap : c.typeMap = TypeMap.builtin) {typeName : String}
    {entry : String × Keyword} (h : c.TypeEntry typeName entry) : entry.1 ≠ "required" := by
  cases h with
  | primitive hmem => exact ne_required_of_mem_builtin (hmap ▸ hmem)
  | _ => simp [originKey]

theorem RestrictionEntry.ne_required {base : String} {r : Restriction} {entry : String × Keyword}
    (h : c.RestrictionEntry base r entry) : entry.1 ≠ "required" := by
  -- The keywords that restrictions take over or set make up two fixed lists.
  have hinherited : ∀ keyword ∈ inheritedKeywords, keyword ≠ "required" := by decide
  have hfacets : ∀ keyword ∈ lengthKeywords ++ boundKeywords, keyword ≠ "required" := by decide
  cases h with
  | inherited hkeyword => exact hinherited _ hkeyword
  | facet _ hkeyword => exact hfacets _ hkeyword
  | _ => simp [originKey]

/-- The law holds of what every single step of a conversion writes. -/
theorem requiresProperties_nodeLaw (hmap : c.typeMap = TypeMap.builtin) :
    NodeLaw c schema JsonSchema.RequiresProperties where
  unconstrained := requiresProperties_of_keywords fun _ h => nomatch h
  array minItems? items := by
    apply requiresProperties_of_keywords
    cases minItems? <;> simp [array, keywords]
  object earlier declared hnodup := requiresProperties_object earlier declared hnodup
  allOf schemas := requiresProperties_of_keywords (by simp [JsonSchema.allOf, keywords])
  anyOf schemas := requiresProperties_of_keywords (by simp [JsonSchema.anyOf, keywords])
  merged _ _ _ hkeywords hcomplex := requiresProperties_update hkeywords hcomplex
  typeName name _ := requiresProperties_of_keywords fun _ hentry =>
    (typeEntry_of_mem_typeSchema hentry).ne_required hmap
  elementType name _ := requiresProperties_of_keywords fun _ hentry =>
    (typeEntry_of_mem_namedSchema hentry).ne_required hmap
  unionMember name _ := requiresProperties_of_keywords fun _ hentry =>
    (typeEntry_of_mem_unionMemberSchema hentry).ne_required hmap
  restriction r s h := by
    obtain ⟨base, hkeywords⟩ := exists_ofRestriction h
    exact requiresProperties_of_keywords fun entry hentry => (hkeywords entry hentry).ne_required
  pattern pattern := requiresProperties_of_keywords (by simp [patternSchema, keywords])

/-- The top-level elements are the properties of a schema document, and the required ones of them
its required names. -/
theorem requiresProperties_schemaDocument (names : OpenNames) (schema : Schema) :
    (c.schemaDocument names schema).RequiresProperties :=
  @requiresProperties_tables (c.schemaDocument names schema) [] (c.declaredRoots names schema)
    List.nodup_nil rfl rfl

end Conversion

namespace Xsd.Document

variable {options : Options} {document : Document}

/-- **Every node of a converted schema requires properties of its own only**: the document itself,
definitions, elements, items, branches and objects of simple content, at any depth. -/
theorem requiresProperties_of_contains (hmappings : options.typeMappings = [])
    {output node : JsonSchema} (houtput : convertWith options document = .ok output)
    (hnode : output.Contains node) : node.RequiresProperties := by
  obtain ⟨schema, hschema, -, rfl⟩ := convertWith_eq_ok_iff.1 houtput
  have hlaw : Conversion.NodeLaw (Conversion.ofDocument options document) schema
      JsonSchema.RequiresProperties :=
    Conversion.requiresProperties_nodeLaw (typeMap_ofDocument hmappings)
  have heverywhere := hlaw.schemaDocument (registry_ofDocument options hschema)
    (Conversion.requiresProperties_schemaDocument {} schema)
  exact heverywhere node hnode

/-- An element with text and a required attribute. -/
def noteElement : Element :=
  { name? := some "note",
    complexType? := some
      { simpleContent? := some
          { base? := some "xs:string",
            attributes := [{ name? := some "id", typeName? := some "xs:ID",
                             use? := some "required" }] } } }

/-- A document with such an element. -/
def noteDocument : Document := { schema? := some { elements := [noteElement] } }

/-- The schema of the element. -/
def noteSchema : JsonSchema :=
  .object [("#text", .node [("type", .text "string")]), ("@_id", .node [("type", .text "string")])]
    ["#text", "@_id"]

/-- The schema of the document. -/
def noteOutput : JsonSchema :=
  .node [("$schema", .text Dialect.draft202012.schemaUri), ("type", .text "object"),
    ("properties", .named [("note", noteSchema)]), ("required", .names ["note"]),
    ("$defs", .named [])]

theorem convertWith_noteDocument : convertWith {} noteDocument = .ok noteOutput := by
  have hwithin : (Conversion.ofDocument {} noteDocument).emitWithin 20 {} noteDocument =
      some (.ok noteOutput) := rfl
  exact convertWith_eq_of_emitWithin hwithin (by decide)

/-- The text and the attribute of a note are properties, and both are required. -/
theorem requiresProperties_noteSchema :
    ({} : Options).typeMappings = [] ∧ convertWith {} noteDocument = .ok noteOutput ∧
      noteOutput.Contains noteSchema ∧
      noteSchema.value? "required" = some (.names ["#text", "@_id"]) ∧
      noteSchema.RequiresProperties := by
  have hnode : noteOutput.Contains noteSchema :=
    .child (by simp [children, noteOutput, keywords, Keyword.children, Keyword.text])
      (.self noteSchema)
  exact ⟨rfl, convertWith_noteDocument, hnode, rfl,
    requiresProperties_of_contains rfl convertWith_noteDocument hnode⟩

end Xsd.Document

end SchemaBridge
