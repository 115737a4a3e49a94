import SchemaBridge.Proofs.JsonSchema.References

/-!
# Changing references

A function of reference texts acts on the references of a schema: on what stands under `$ref` in each
of its schema nodes. It acts in the same way on a JSON value that is read as a schema
(`Json.mapReferences`), where a node is told by the keywords on the way to it. A property or a
definition with the name `$ref` is no reference, and neither is plain data.

Both agree on schemas whose keywords hold what their names promise (`JsonSchema.Placed`,
`JsonSchema.toJson_mapReferences`).
-/

set_option autoImplicit false

namespace SchemaBridge

open Xsd JsonSchema

/-! ## Tables whose values are changed -/

namespace Fields

variable {α β : Type}

/-- Insertion commutes with a change of values that may look at the names. -/
theorem map_put (change : String → α → β) (fields : Fields α) (name : String) (value : α) :
    ((put fields name value).map fun entry => (entry.1, change entry.1 entry.2)) =
      put (fields.map fun entry => (entry.1, change entry.1 entry.2)) name (change name value) := by
  induction fields with
  | nil => rfl
  | cons first rest ih =>
      obtain ⟨key, old⟩ := first
      by_cases h : key = name
      · simp [put, h]
      · simp [put, h, ih]

theorem map_update (change : String → α → β) (fields extra : Fields α) :
    ((update fields extra).map fun entry => (entry.1, change entry.1 entry.2)) =
      update (fields.map fun entry => (entry.1, change entry.1 entry.2))
        (extra.map fun entry => (entry.1, change entry.1 entry.2)) := by
  -- The table changes with each inserted entry, so it is generalized.
  induction extra generalizing fields with
  | nil => rfl
  | cons first rest ih =>
      have hrest : update fields (first :: rest) = update (put fields first.1 first.2) rest := rfl
      rw [hrest, ih, map_put]
      rfl

end Fields

/-! ## Replacing references -/

/-- A string changed by a function; any other value as it is. -/
def Json.mapText (f : String → String) : Json → Json
  | .str text => .str (f text)
  | value => value

/-- The keywords under which schemas stand by name. -/
def Json.tableKeywords : List String := ["properties", "$defs", "definitions"]

/-- The keywords under which several schemas stand. -/
def Json.listKeywords : List String := ["allOf", "anyOf"]

namespace Json

variable (f : String → String)

mutual

/-- A schema with the references of all its nodes changed by a function. -/
def mapReferences : Json → Json
  | .obj fields => .obj (fieldsMapReferences fields)
  | .null => .null
  | .bool value => .bool value
  | .int value => .int value
  | .double value => .double value
  | .str text => .str text
  | .arr items => .arr items

/-- The keywords of a schema with their references changed. -/
def fieldsMapReferences : List (String × Json) → List (String × Json)
  | [] => []
  | (keyword, value) :: rest => (keyword, valueMapReferences keyword value) :: fieldsMapReferences rest

/-- What stands under a keyword, with the references in it changed. -/
def valueMapReferences (keyword : String) : Json → Json
  | .obj fields =>
      if keyword ∈ tableKeywords then .obj (tableMapReferences fields)
      else if keyword = "items" then .obj (fieldsMapReferences fields)
      else .obj fields
  | .arr items => if keyword ∈ listKeywords then .arr (itemsMapReferences items) else .arr items
  | .str text => if keyword = "$ref" then .str (f text) else .str text
  | .null => .null
  | .bool value => .bool value
  | .int value => .int value
  | .double value => .double value

/-- Schemas by name with their references changed. -/
def tableMapReferences : List (String × Json) → List (String × Json)
  | [] => []
  | (name, schema) :: rest => (name, mapReferences schema) :: tableMapReferences rest

/-- Several schemas with their references changed. -/
def itemsMapReferences : List Json → List Json
  | [] => []
  | schema :: rest => mapReferences schema :: itemsMapReferences rest

end

end Json

namespace JsonSchema

variable (f : String → String)

mutual

/-- A schema with the references of all its nodes changed by a function. -/
def mapReferences : JsonSchema → JsonSchema
  | .node keywords => .node (keywordsMapReferences keywords)

/-- The keywords of a schema with their references changed. -/
def keywordsMapReferences : List (String × Keyword) → List (String × Keyword)
  | [] => []
  | (name, keyword) :: rest => (name, keywordMapReferences name keyword) :: keywordsMapReferences rest

/-- What stands under a keyword, with the references in it changed. -/
def keywordMapReferences (name : String) : Keyword → Keyword
  | .data value => if name = "$ref" then .data (value.mapText f) else .data value
  | .names names => .names names
  | .schema schema => .schema (mapReferences schema)
  | .schemas schemas => .schemas (schemasMapReferences schemas)
  | .named table => .named (tableMapReferences table)

/-- Several schemas with their references changed. -/
def schemasMapReferences : List JsonSchema → List JsonSchema
  | [] => []
  | schema :: rest => mapReferences schema :: schemasMapReferences rest

/-- Schemas by name with their references changed. -/
def tableMapReferences : List (String × JsonSchema) → List (String × JsonSchema)
  | [] => []
  | (name, schema) :: rest => (name, mapReferences schema) :: tableMapReferences rest

end

theorem keywordsMapReferences_eq (keywords : List (String × Keyword)) :
    keywordsMapReferences f keywords =
      keywords.map fun entry => (entry.1, keywordMapReferences f entry.1 entry.2) := by
  induction keywords with
  | nil => rfl
  | cons entry rest ih => rw [keywordsMapReferences, ih, List.map_cons]

theorem schemasMapReferences_eq (schemas : List JsonSchema) :
    schemasMapReferences f schemas = schemas.map (mapReferences f) := by
  induction schemas with
  | nil => rfl
  | cons schema rest ih => rw [schemasMapReferences, ih, List.map_cons]

theorem tableMapReferences_eq (table : List (String × JsonSchema)) :
    tableMapReferences f table = table.map fun entry => (entry.1, entry.2.mapReferences f) := by
  induction table with
  | nil => rfl
  | cons entry rest ih => rw [tableMapReferences, ih, List.map_cons]

theorem mapReferences_eq (schema : JsonSchema) :
    schema.mapReferences f =
      .node (schema.keywords.map fun entry => (entry.1, keywordMapReferences f entry.1 entry.2)) := by
  cases schema
  rw [mapReferences, keywordsMapReferences_eq]
  rfl

theorem mapReferences_put (schema : JsonSchema) (keyword : String) (value : Keyword) :
    (schema.put keyword value).mapReferences f =
      (schema.mapReferences f).put keyword (keywordMapReferences f keyword value) := by
  simp only [mapReferences_eq, put, keywords, Fields.map_put]

theorem mapReferences_update (schema extra : JsonSchema) :
    (schema.update extra).mapReferences f =
      (schema.mapReferences f).update (extra.mapReferences f) := by
  simp only [mapReferences_eq, update, keywords, Fields.map_update]

@[simp] theorem mapReferences_unconstrained : unconstrained.mapReferences f = unconstrained := rfl

theorem mapReferences_reference (target : String) :
    (reference target).mapReferences f = reference (f target) := rfl

theorem mapReferences_array (minItems? : Option Int) (items : JsonSchema) :
    (array minItems? items).mapReferences f = array minItems? (items.mapReferences f) := by
  cases minItems? <;> rfl

theorem mapReferences_object (properties : Fields JsonSchema) (required : List String) :
    (object properties required).mapReferences f =
      object (properties.map fun entry => (entry.1, entry.2.mapReferences f)) required := by
  rw [← tableMapReferences_eq]
  rfl

theorem mapReferences_allOf (schemas : List JsonSchema) :
    (allOf schemas).mapReferences f = allOf (schemas.map (mapReferences f)) := by
  rw [← schemasMapReferences_eq]
  rfl

theorem mapReferences_anyOf (schemas : List JsonSchema) :
    (anyOf schemas).mapReferences f = anyOf (schemas.map (mapReferences f)) := by
  rw [← schemasMapReferences_eq]
  rfl

/-- A keyword other than a reference stays as it is when the schemas under it do. -/
theorem keywordMapReferences_eq_self {name : String} {keyword : Keyword} (hname : name ≠ "$ref")
    (hchildren : ∀ inner ∈ keyword.children, inner.mapReferences f = inner) :
    keywordMapReferences f name keyword = keyword := by
  cases keyword with
  | data value => rw [keywordMapReferences, if_neg hname]
  | names => rfl
  | schema inner => rw [keywordMapReferences, hchildren inner (List.mem_singleton_self _)]
  | schemas list =>
      have hlist : list.map (mapReferences f) = list.map id := List.map_congr_left hchildren
      rw [keywordMapReferences, schemasMapReferences_eq, hlist, List.map_id]
  | named table =>
      have htable : (table.map fun entry => (entry.1, entry.2.mapReferences f)) = table.map id :=
        List.map_congr_left fun entry hentry => by
          rw [hchildren entry.2 (List.mem_map_of_mem hentry), id]
      rw [keywordMapReferences, tableMapReferences_eq, htable, List.map_id]

/-- A schema without references stays as it is. -/
theorem mapReferences_eq_self {schema : JsonSchema}
    (hnames : ∀ entry ∈ schema.keywords, entry.1 ≠ "$ref")
    (hchildren : ∀ inner ∈ schema.children, inner.mapReferences f = inner) :
    schema.mapReferences f = schema := by
  have hmap : (schema.keywords.map fun entry =>
      (entry.1, keywordMapReferences f entry.1 entry.2)) = schema.keywords.map id := by
    refine List.map_congr_left fun entry hentry => ?_
    rw [keywordMapReferences_eq_self f (hnames entry hentry) fun inner hinner =>
      hchildren inner (List.mem_flatMap.2 ⟨entry, hentry, hinner⟩), id]
  rw [mapReferences_eq, hmap, List.map_id]
  cases schema
  rfl

end JsonSchema

/-! ## Schemas as JSON values -/

namespace Json

theorem hasField_cons {key : String} {value : Json} {entry : String × Json}
    {rest : List (String × Json)} (h : HasField key value (.obj rest)) :
    HasField key value (.obj (entry :: rest)) := by
  cases h with
  | here hmem => exact .here (List.mem_cons_of_mem _ hmem)
  | field hmem hinner => exact .field (List.mem_cons_of_mem _ hmem) hinner

variable (f : String → String)

mutual

/-- A value that holds no reference stays as it is, wherever schemas are looked for in it. -/
theorem mapReferences_eq_self (value : Json) (hfree : ∀ target, ¬ HasField "$ref" target value) :
    value.mapReferences f = value := by
  cases value with
  | obj fields => rw [mapReferences, fieldsMapReferences_eq_self fields hfree]
  | _ => rfl

theorem fieldsMapReferences_eq_self (fields : List (String × Json))
    (hfree : ∀ target, ¬ HasField "$ref" target (.obj fields)) :
    fieldsMapReferences f fields = fields := by
  cases fields with
  | nil => rfl
  | cons entry rest =>
      obtain ⟨keyword, value⟩ := entry
      have hkeyword : keyword ≠ "$ref" := by
        rintro rfl
        exact hfree value (.here (List.mem_cons_self ..))
      rw [fieldsMapReferences,
        valueMapReferences_eq_self keyword value hkeyword fun target h =>
          hfree target (.field (List.mem_cons_self ..) h),
        fieldsMapReferences_eq_self rest fun target h => hfree target (hasField_cons h)]

theorem valueMapReferences_eq_self (keyword : String) (value : Json) (hkeyword : keyword ≠ "$ref")
    (hfree : ∀ target, ¬ HasField "$ref" target value) :
    valueMapReferences f keyword value = value := by
  cases value with
  | obj fields =>
      rw [valueMapReferences, tableMapReferences_eq_self fields hfree,
        fieldsMapReferences_eq_self fields hfree, ite_self, ite_self]
  | arr items =>
      rw [valueMapReferences, itemsMapReferences_eq_self items hfree, ite_self]
  | str text => rw [valueMapReferences, if_neg hkeyword]
  | _ => rfl

theorem tableMapReferences_eq_self (fields : List (String × Json))
    (hfree : ∀ target, ¬ HasField "$ref" target (.obj fields)) :
    tableMapReferences f fields = fields := by
  cases fields with
  | nil => rfl
  | cons entry rest =>
      obtain ⟨name, value⟩ := entry
      rw [tableMapReferences,
        mapReferences_eq_self value fun target h =>
          hfree target (.field (List.mem_cons_self ..) h),
        tableMapReferences_eq_self rest fun target h => hfree target (hasField_cons h)]

theorem itemsMapReferences_eq_self (items : List Json)
    (hfree : ∀ target, ¬ HasField "$ref" target (.arr items)) :
    itemsMapReferences f items = items := by
  cases items with
  | nil => rfl
  | cons item rest =>
      rw [itemsMapReferences,
        mapReferences_eq_self item fun target h => hfree target (.item (List.mem_cons_self ..) h),
        itemsMapReferences_eq_self rest fun target h => by
          cases h with
          | item hitem hinner => exact hfree target (.item (List.mem_cons_of_mem _ hitem) hinner)]

end

end Json

/-- A keyword holds schemas in the form that its name promises: one under `items`, several in a
composition, and schemas by name in a table of properties or definitions. A list of names is no
reference. -/
def Keyword.InPlace : String × Keyword → Prop
  | (_, .data _) => True
  | (name, .names _) => name ≠ "$ref"
  | (name, .schema _) => name = "items"
  | (name, .schemas _) => name ∈ Json.listKeywords
  | (name, .named _) => name ∈ Json.tableKeywords

/-- The keywords of a node hold schemas in their places, and no data holds a reference. -/
def JsonSchema.Placed (node : JsonSchema) : Prop :=
  ∀ entry ∈ node.keywords, Keyword.InPlace entry ∧
    ∀ data, entry.2 = .data data → ∀ target, ¬ Json.HasField "$ref" target data

namespace JsonSchema

theorem keywordsToJson_eq (keywords : List (String × Keyword)) :
    keywordsToJson keywords = keywords.map fun entry => (entry.1, keywordToJson entry.2) := by
  induction keywords with
  | nil => rfl
  | cons entry rest ih => rw [keywordsToJson, ih, List.map_cons]

theorem schemasToJson_eq (schemas : List JsonSchema) :
    schemasToJson schemas = schemas.map toJson := by
  induction schemas with
  | nil => rfl
  | cons schema rest ih => rw [schemasToJson, ih, List.map_cons]

theorem tableToJson_eq (table : List (String × JsonSchema)) :
    tableToJson table = table.map fun entry => (entry.1, entry.2.toJson) := by
  induction table with
  | nil => rfl
  | cons entry rest ih => rw [tableToJson, ih, List.map_cons]

variable (f : String → String)

mutual

/-- **References of a schema and of its JSON value** are the same, when each keyword holds what its
name promises. -/
theorem toJson_mapReferences (schema : JsonSchema) (h : schema.Everywhere Placed) :
    (schema.mapReferences f).toJson = schema.toJson.mapReferences f := by
  cases schema with
  | node keywords =>
      rw [mapReferences, toJson, toJson, Json.mapReferences,
        keywordsToJson_mapReferences keywords fun entry hentry =>
          ⟨h.self entry hentry, fun inner hinner =>
            h.of_mem_children (List.mem_flatMap.2 ⟨entry, hentry, hinner⟩)⟩]

theorem keywordsToJson_mapReferences (keywords : List (String × Keyword))
    (h : ∀ entry ∈ keywords, (Keyword.InPlace entry ∧
        ∀ data, entry.2 = .data data → ∀ target, ¬ Json.HasField "$ref" target data) ∧
      ∀ inner ∈ entry.2.children, inner.Everywhere Placed) :
    keywordsToJson (keywordsMapReferences f keywords) =
      Json.fieldsMapReferences f (keywordsToJson keywords) := by
  cases keywords with
  | nil => rfl
  | cons entry rest =>
      obtain ⟨name, keyword⟩ := entry
      obtain ⟨⟨hplace, hfree⟩, hchildren⟩ := h _ (List.mem_cons_self ..)
      rw [keywordsMapReferences, keywordsToJson, keywordsToJson, Json.fieldsMapReferences,
        keywordToJson_mapReferences name keyword hplace hfree hchildren,
        keywordsToJson_mapReferences rest fun entry hentry => h entry (List.mem_cons_of_mem _ hentry)]

theorem keywordToJson_mapReferences (name : String) (keyword : Keyword)
    (hplace : Keyword.InPlace (name, keyword))
    (hfree : ∀ data, keyword = .data data → ∀ target, ¬ Json.HasField "$ref" target data)
    (hchildren : ∀ inner ∈ keyword.children, inner.Everywhere Placed) :
    keywordToJson (keywordMapReferences f name keyword) =
      Json.valueMapReferences f name (keywordToJson keyword) := by
  cases keyword with
  | data value =>
      rw [keywordMapReferences]
      by_cases hname : name = "$ref"
      · subst hname
        cases value <;> rfl
      · rw [if_neg hname]
        exact (Json.valueMapReferences_eq_self f name value hname (hfree value rfl)).symm
  | names names =>
      refine (Json.valueMapReferences_eq_self f name _ hplace fun target hfield => ?_).symm
      cases hfield with
      | item hitem hinner =>
          obtain ⟨text, -, rfl⟩ := List.mem_map.1 hitem
          cases hinner
  | schema schema =>
      cases hplace
      rw [keywordMapReferences, keywordToJson, keywordToJson,
        toJson_mapReferences schema (hchildren schema (List.mem_singleton_self _))]
      cases schema
      rfl
  | schemas schemas =>
      have hname : name ∈ Json.listKeywords := hplace
      rw [keywordMapReferences, keywordToJson, keywordToJson, Json.valueMapReferences,
        if_pos hname, schemasToJson_mapReferences schemas hchildren]
  | named table =>
      have hname : name ∈ Json.tableKeywords := hplace
      rw [keywordMapReferences, keywordToJson, keywordToJson, Json.valueMapReferences,
        if_pos hname, tableToJson_mapReferences table fun entry hentry =>
          hchildren entry.2 (List.mem_map_of_mem hentry)]

theorem schemasToJson_mapReferences (schemas : List JsonSchema)
    (h : ∀ schema ∈ schemas, schema.Everywhere Placed) :
    schemasToJson (schemasMapReferences f schemas) =
      Json.itemsMapReferences f (schemasToJson schemas) := by
  cases schemas with
  | nil => rfl
  | cons schema rest =>
      rw [schemasMapReferences, schemasToJson, schemasToJson, Json.itemsMapReferences,
        toJson_mapReferences schema (h schema (List.mem_cons_self ..)),
        schemasToJson_mapReferences rest fun other hother => h other (List.mem_cons_of_mem _ hother)]

theorem tableToJson_mapReferences (table : List (String × JsonSchema))
    (h : ∀ entry ∈ table, entry.2.Everywhere Placed) :
    tableToJson (tableMapReferences f table) = Json.tableMapReferences f (tableToJson table) := by
  cases table with
  | nil => rfl
  | cons entry rest =>
      obtain ⟨name, schema⟩ := entry
      rw [tableMapReferences, tableToJson, tableToJson, Json.tableMapReferences,
        toJson_mapReferences schema (h _ (List.mem_cons_self ..)),
        tableToJson_mapReferences rest fun other hother => h other (List.mem_cons_of_mem _ hother)]

end

end JsonSchema

end SchemaBridge
