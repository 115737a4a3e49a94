import SchemaBridge.Proofs.JsonSchema.Dialects
import SchemaBridge.Proofs.JsonSchema.SideBySide

/-!
# Origins are annotations

A conversion may note in each schema node the name of the type that it comes from, under a keyword of
its own. The keyword is written before, between and after others, and a type mapping may hold it too.
Taking it out of every schema node of a JSON value (`Json.withoutOrigins`) leaves the names of
properties and definitions and the order of all other fields as they are.

Main result: with and without origins, a conversion fails with the same error, or the results are the
same value once the keyword is taken out of both; and without origins there is nothing to take out,
unless a type mapping brings the keyword in (`Document.convertWith_withoutOrigins`).

The two conversions go side by side. What is compared are the fields of the JSON values: those of the
first one without origins, and those of the second one read without origins again, or read as they
are (`JsonSchema.Reading`).
-/

set_option autoImplicit false

namespace SchemaBridge

open Xsd

/-! ## Values without origins -/

namespace Json

open Conversion (originKey)

mutual

/-- A schema with the origins of all its nodes taken out. -/
def withoutOrigins : Json → Json
  | .obj fields => .obj (fieldsWithoutOrigins fields)
  | .null => .null
  | .bool value => .bool value
  | .int value => .int value
  | .double value => .double value
  | .str text => .str text
  | .arr items => .arr items

/-- The keywords of a schema except its origin, with the origins below them taken out. -/
def fieldsWithoutOrigins : List (String × Json) → List (String × Json)
  | [] => []
  | (keyword, value) :: rest =>
      if keyword = originKey then fieldsWithoutOrigins rest
      else (keyword, valueWithoutOrigins keyword value) :: fieldsWithoutOrigins rest

/-- What stands under a keyword, with the origins of the schemas in it taken out. -/
def valueWithoutOrigins (keyword : String) : Json → Json
  | .obj fields =>
      if keyword ∈ tableKeywords then .obj (tableWithoutOrigins fields)
      else if keyword = "items" then .obj (fieldsWithoutOrigins fields)
      else .obj fields
  | .arr items => if keyword ∈ listKeywords then .arr (itemsWithoutOrigins items) else .arr items
  | .null => .null
  | .bool value => .bool value
  | .int value => .int value
  | .double value => .double value
  | .str text => .str text

/-- Schemas by name with their origins taken out. -/
def tableWithoutOrigins : List (String × Json) → List (String × Json)
  | [] => []
  | (name, schema) :: rest => (name, withoutOrigins schema) :: tableWithoutOrigins rest

/-- Several schemas with their origins taken out. -/
def itemsWithoutOrigins : List Json → List Json
  | [] => []
  | schema :: rest => withoutOrigins schema :: itemsWithoutOrigins rest

end

/-- No schema node of a value notes an origin: there is nothing to take out. -/
def Unmarked (value : Json) : Prop := value.withoutOrigins = value

theorem fieldsWithoutOrigins_eq (fields : Fields Json) :
    fieldsWithoutOrigins fields =
      (fields.without originKey).map fun entry => (entry.1, valueWithoutOrigins entry.1 entry.2) := by
  induction fields with
  | nil => rfl
  | cons entry rest ih =>
      rw [fieldsWithoutOrigins, Fields.without_cons, ih]
      split
      · rfl
      · rfl

theorem tableWithoutOrigins_eq (table : List (String × Json)) :
    tableWithoutOrigins table = table.map fun entry => (entry.1, entry.2.withoutOrigins) := by
  induction table with
  | nil => rfl
  | cons entry rest ih => rw [tableWithoutOrigins, ih, List.map_cons]

theorem itemsWithoutOrigins_eq (items : List Json) :
    itemsWithoutOrigins items = items.map withoutOrigins := by
  induction items with
  | nil => rfl
  | cons item rest ih => rw [itemsWithoutOrigins, ih, List.map_cons]

theorem fieldsWithoutOrigins_put (fields : Fields Json) {name : String} (hname : name ≠ originKey)
    (value : Json) :
    fieldsWithoutOrigins (fields.put name value) =
      Fields.put (fieldsWithoutOrigins fields) name (valueWithoutOrigins name value) := by
  rw [fieldsWithoutOrigins_eq, fieldsWithoutOrigins_eq, Fields.without_put, if_neg hname,
    Fields.map_put]

theorem fieldsWithoutOrigins_put_originKey (fields : Fields Json) (value : Json) :
    fieldsWithoutOrigins (fields.put originKey value) = fieldsWithoutOrigins fields := by
  rw [fieldsWithoutOrigins_eq, fieldsWithoutOrigins_eq, Fields.without_put, if_pos rfl]

theorem fieldsWithoutOrigins_update (fields extra : Fields Json) :
    fieldsWithoutOrigins (fields.update extra) =
      Fields.update (fieldsWithoutOrigins fields) (fieldsWithoutOrigins extra) := by
  simp only [fieldsWithoutOrigins_eq, Fields.without_update, Fields.map_update]

/-- Strings hold no schemas. -/
theorem valueWithoutOrigins_ofNames (keyword : String) (names : List String) :
    valueWithoutOrigins keyword (ofNames names) = ofNames names := by
  have hnames : (names.map Json.str).map withoutOrigins = names.map Json.str := by
    rw [List.map_map]
    rfl
  rw [ofNames, valueWithoutOrigins, itemsWithoutOrigins_eq, hnames, ite_self]

/-- Only some keywords hold schemas. -/
theorem valueWithoutOrigins_eq_self {keyword : String} (htable : keyword ∉ tableKeywords)
    (hlist : keyword ∉ listKeywords) (hitems : keyword ≠ "items") (value : Json) :
    valueWithoutOrigins keyword value = value := by
  cases value with
  | obj fields => rw [valueWithoutOrigins, if_neg htable, if_neg hitems]
  | arr items => rw [valueWithoutOrigins, if_neg hlist]
  | _ => rfl

/-- An object is unmarked when it does not note an origin itself and no schema under its fields
does. -/
theorem unmarked_obj_iff (fields : Fields Json) :
    Unmarked (.obj fields) ↔ ∀ entry ∈ fields, entry.1 ≠ originKey ∧
      valueWithoutOrigins entry.1 entry.2 = entry.2 := by
  rw [Unmarked, withoutOrigins, Json.obj.injEq]
  induction fields with
  | nil => simp [fieldsWithoutOrigins]
  | cons entry rest ih =>
      obtain ⟨keyword, value⟩ := entry
      rw [List.forall_mem_cons, ← ih, fieldsWithoutOrigins]
      split
      · rename_i hkeyword
        -- One field less is left than there was.
        refine iff_of_false (fun heq => ?_) fun h => h.1.1 hkeyword
        have hlength := congrArg List.length heq
        rw [fieldsWithoutOrigins_eq, List.length_map, List.length_cons] at hlength
        have hle : (Fields.without rest originKey).length ≤ rest.length := List.length_filter_le ..
        omega
      · rename_i hkeyword
        rw [List.cons.injEq, Prod.mk.injEq]
        exact ⟨fun h => ⟨⟨hkeyword, h.1.2⟩, h.2⟩, fun h => ⟨⟨rfl, h.1.2⟩, h.2⟩⟩

end Json

/-! ## Fields of schemas -/

namespace JsonSchema

/-- The fields of the JSON value of a schema. -/
def fields (schema : JsonSchema) : Fields Json := keywordsToJson schema.keywords

/-- The fields of the JSON value of a schema, with all origins in it taken out. -/
def plainFields (schema : JsonSchema) : Fields Json := Json.fieldsWithoutOrigins schema.fields

theorem toJson_eq (schema : JsonSchema) : schema.toJson = .obj schema.fields := by
  cases schema
  rw [toJson]
  rfl

theorem withoutOrigins_toJson (schema : JsonSchema) :
    schema.toJson.withoutOrigins = .obj schema.plainFields := by
  rw [toJson_eq, Json.withoutOrigins, plainFields]

theorem fields_put (schema : JsonSchema) (keyword : String) (value : Keyword) :
    (schema.put keyword value).fields = schema.fields.put keyword (keywordToJson value) := by
  simp only [fields, put, keywords, keywordsToJson_eq]
  exact Fields.map_put (fun _ value => keywordToJson value) schema.keywords keyword value

theorem fields_update (schema extra : JsonSchema) :
    (schema.update extra).fields = schema.fields.update extra.fields := by
  simp only [fields, update, keywords, keywordsToJson_eq]
  exact Fields.map_update (fun _ value => keywordToJson value) schema.keywords extra.keywords

theorem plainFields_put_originKey (schema : JsonSchema) (value : Keyword) :
    (schema.put Conversion.originKey value).plainFields = schema.plainFields := by
  rw [plainFields, fields_put, Json.fieldsWithoutOrigins_put_originKey, plainFields]

end JsonSchema

/-- What stands under a keyword as a JSON value, when the fields of schemas are read by a
function. -/
def Keyword.read (view : JsonSchema → Fields Json) : Keyword → Json
  | .data value => value
  | .names list => Json.ofNames list
  | .schema inner => .obj (view inner)
  | .schemas list => .arr (list.map fun inner => .obj (view inner))
  | .named table => .obj (table.map fun entry => (entry.1, .obj (view entry.2)))

/-- A keyword other than the origin holds schemas in the form that its name promises, and none of
the schemas in its data notes an origin. -/
structure Keyword.Settled (entry : String × Keyword) : Prop where
  ne_originKey : entry.1 ≠ Conversion.originKey
  inPlace : Keyword.InPlace entry
  data : ∀ data, entry.2 = .data data → Json.valueWithoutOrigins entry.1 data = data

namespace JsonSchema

/-- A way to read the fields off a schema: field by field where the keywords are settled. -/
structure Reading (view : JsonSchema → Fields Json) : Prop where
  node : ∀ keywords : Fields Keyword, (∀ entry ∈ keywords, Keyword.Settled entry) →
    view (.node keywords) = keywords.map fun entry => (entry.1, entry.2.read view)
  put : ∀ (schema : JsonSchema) {keyword : String} {value : Keyword},
    Keyword.Settled (keyword, value) →
    view (schema.put keyword value) = (view schema).put keyword (value.read view)
  update : ∀ schema extra : JsonSchema,
    view (schema.update extra) = (view schema).update (view extra)

theorem read_fields (keyword : Keyword) : keyword.read fields = keywordToJson keyword := by
  cases keyword with
  | data | names => rfl
  | schema schema => rw [Keyword.read, keywordToJson, toJson_eq]
  | schemas schemas =>
      rw [Keyword.read, keywordToJson, schemasToJson_eq, funext toJson_eq]
  | named table => simp only [Keyword.read, keywordToJson, tableToJson_eq, toJson_eq]

theorem read_plainFields {keyword : String} {value : Keyword}
    (h : Keyword.Settled (keyword, value)) :
    value.read plainFields = Json.valueWithoutOrigins keyword (keywordToJson value) := by
  have hplace := h.inPlace
  cases value with
  | data data => exact (h.data data rfl).symm
  | names names => exact (Json.valueWithoutOrigins_ofNames keyword names).symm
  | schema schema =>
      cases hplace
      rw [Keyword.read, keywordToJson, toJson_eq]
      rfl
  | schemas schemas =>
      have hkeyword : keyword ∈ Json.listKeywords := hplace
      rw [Keyword.read, keywordToJson, Json.valueWithoutOrigins, if_pos hkeyword, schemasToJson_eq,
        Json.itemsWithoutOrigins_eq, List.map_map]
      simp only [Function.comp_def, withoutOrigins_toJson]
  | named table =>
      have hkeyword : keyword ∈ Json.tableKeywords := hplace
      rw [Keyword.read, keywordToJson, Json.valueWithoutOrigins, if_pos hkeyword, tableToJson_eq,
        Json.tableWithoutOrigins_eq, List.map_map]
      simp only [Function.comp_def, withoutOrigins_toJson]

/-- Fields are read as they are. -/
theorem fields_reading : Reading fields where
  node keywords _ := by
    simp only [fields, JsonSchema.keywords, keywordsToJson_eq, read_fields]
  put schema keyword value _ := by rw [fields_put, read_fields]
  update := fields_update

/-- Fields are read without origins. -/
theorem plainFields_reading : Reading plainFields where
  node keywords h := by
    have hkept : Fields.without (keywordsToJson keywords) Conversion.originKey =
        keywordsToJson keywords := by
      rw [keywordsToJson_eq, Fields.without, List.filter_eq_self, List.forall_mem_map]
      exact fun entry hentry => decide_eq_true (h entry hentry).ne_originKey
    rw [plainFields, fields, JsonSchema.keywords, Json.fieldsWithoutOrigins_eq, hkept,
      keywordsToJson_eq, List.map_map]
    exact List.map_congr_left fun entry hentry => by
      rw [Function.comp_apply, read_plainFields (h entry hentry)]
  put schema keyword value h := by
    rw [plainFields, fields_put, Json.fieldsWithoutOrigins_put _ h.ne_originKey,
      read_plainFields h, plainFields]
  update schema extra := by
    rw [plainFields, fields_update, Json.fieldsWithoutOrigins_update, plainFields, plainFields]

/-! ## Schemas that read alike -/

/-- A schema reads without its origins as another one does in a given way. -/
def ReadsAs (view : JsonSchema → Fields Json) (schema other : JsonSchema) : Prop :=
  schema.plainFields = view other

/-- The keywords under which a value may hold schemas or note an origin. -/
def schemaKeywords : List String :=
  Conversion.originKey :: "items" :: (Json.tableKeywords ++ Json.listKeywords)

theorem settled_data {keyword : String} (h : keyword ∉ schemaKeywords) (value : Json) :
    Keyword.Settled (keyword, .data value) where
  ne_originKey := by
    rintro rfl
    exact h (List.mem_cons_self ..)
  inPlace := trivial
  data := by
    rintro data heq
    cases heq
    have htable : keyword ∉ Json.tableKeywords := fun hmem =>
      h (List.mem_cons_of_mem _ (List.mem_cons_of_mem _ (List.mem_append_left _ hmem)))
    have hlist : keyword ∉ Json.listKeywords := fun hmem =>
      h (List.mem_cons_of_mem _ (List.mem_cons_of_mem _ (List.mem_append_right _ hmem)))
    have hitems : keyword ≠ "items" := fun heq =>
      h (heq ▸ List.mem_cons_of_mem _ (List.mem_cons_self ..))
    exact Json.valueWithoutOrigins_eq_self htable hlist hitems value

/-- What is no data is settled by its place. -/
theorem settled_of_inPlace {keyword : String} {value : Keyword} (hne : keyword ≠ Conversion.originKey)
    (hplace : Keyword.InPlace (keyword, value)) (hdata : ∀ data, value ≠ .data data) :
    Keyword.Settled (keyword, value) :=
  ⟨hne, hplace, fun data heq => absurd heq (hdata data)⟩

section ReadsAs

variable {view : JsonSchema → Fields Json}

/-- Nodes read alike when their keywords do, one by one. -/
theorem readsAs_node (hview : Reading view) {keywords others : Fields Keyword}
    (hkeywords : ∀ entry ∈ keywords, Keyword.Settled entry)
    (hothers : ∀ entry ∈ others, Keyword.Settled entry)
    (h : (keywords.map fun entry => (entry.1, entry.2.read plainFields)) =
      others.map fun entry => (entry.1, entry.2.read view)) :
    ReadsAs view (.node keywords) (.node others) := by
  rw [ReadsAs, plainFields_reading.node keywords hkeywords, hview.node others hothers, h]

/-- A schema with settled data only reads the same in all ways. -/
theorem readsAs_self_of_data (hview : Reading view) {keywords : Fields Keyword}
    (h : ∀ entry ∈ keywords, Keyword.Settled entry ∧ ∃ data, entry.2 = .data data) :
    ReadsAs view (.node keywords) (.node keywords) := by
  have hsettled : ∀ entry ∈ keywords, Keyword.Settled entry := fun entry hentry => (h entry hentry).1
  refine readsAs_node hview hsettled hsettled (List.map_congr_left fun entry hentry => ?_)
  obtain ⟨data, hdata⟩ := (h entry hentry).2
  rw [hdata]
  rfl

theorem ReadsAs.put (hview : Reading view) {schema other : JsonSchema}
    (h : ReadsAs view schema other) {keyword : String} {value : Keyword}
    (hsettled : Keyword.Settled (keyword, value)) (hvalue : value.read plainFields = value.read view) :
    ReadsAs view (schema.put keyword value) (other.put keyword value) := by
  have hfields : schema.plainFields = view other := h
  rw [ReadsAs, plainFields_reading.put schema hsettled, hview.put other hsettled, hfields, hvalue]

theorem ReadsAs.update (hview : Reading view) {schema other extra extra' : JsonSchema}
    (h : ReadsAs view schema other) (hextra : ReadsAs view extra extra') :
    ReadsAs view (schema.update extra) (other.update extra') := by
  have hfields : schema.plainFields = view other := h
  have hadded : extra.plainFields = view extra' := hextra
  rw [ReadsAs, plainFields_reading.update, hview.update, hfields, hadded]

theorem readsAs_unconstrained (hview : Reading view) : ReadsAs view unconstrained unconstrained :=
  readsAs_self_of_data hview fun _ hentry => nomatch hentry

theorem settled_array (minItems? : Option Int) (items : JsonSchema) :
    ∀ entry ∈ (array minItems? items).keywords, Keyword.Settled entry := by
  intro entry hentry
  rcases List.mem_append.1 hentry with hentry | hentry
  · rcases List.mem_cons.1 hentry with rfl | hentry
    · exact settled_data (by decide) _
    · obtain ⟨n, -, rfl⟩ := List.mem_map.1 hentry
      exact settled_data (by decide) _
  · rw [List.mem_singleton.1 hentry]
    exact settled_of_inPlace (by decide) rfl (by simp)

theorem readsAs_array (hview : Reading view) (minItems? : Option Int) {items items' : JsonSchema}
    (h : ReadsAs view items items') :
    ReadsAs view (array minItems? items) (array minItems? items') := by
  have hitems : items.plainFields = view items' := h
  refine readsAs_node hview (settled_array minItems? items) (settled_array minItems? items') ?_
  cases minItems? <;> simp [Keyword.read, Keyword.text, hitems]

/-- Tables with schemas that read alike. -/
theorem read_named {table other : Fields JsonSchema}
    (h : Fields.Alike id (ReadsAs view) table other) :
    (Keyword.named table).read plainFields = (Keyword.named other).read view := by
  rw [Keyword.read, Keyword.read]
  congr 1
  induction h with
  | nil => rfl
  | cons hentry _ ih =>
      have hfields : _ = _ := hentry.2
      rw [List.map_cons, List.map_cons, ih, hentry.1, hfields]
      rfl

theorem settled_object (properties : Fields JsonSchema) (required : List String) :
    ∀ entry ∈ (object properties required).keywords, Keyword.Settled entry := by
  intro entry hentry
  simp only [object, keywords, List.mem_cons, List.not_mem_nil, or_false] at hentry
  rcases hentry with rfl | rfl | rfl
  · exact settled_data (by decide) _
  · exact settled_of_inPlace (by decide) (by decide : "properties" ∈ Json.tableKeywords) (by simp)
  · exact settled_of_inPlace (by decide) (by decide : "required" ≠ "$ref") (by simp)

theorem readsAs_object (hview : Reading view) {properties properties' : Fields JsonSchema}
    (required : List String) (h : Fields.Alike id (ReadsAs view) properties properties') :
    ReadsAs view (object properties required) (object properties' required) := by
  refine readsAs_node hview (settled_object properties required) (settled_object _ required) ?_
  simp only [List.map_cons, List.map_nil, read_named h]
  rfl

/-- Compositions of schemas that read alike. -/
theorem readsAs_composition (hview : Reading view) {keyword : String}
    (hkeyword : keyword ∈ Json.listKeywords) {schemas others : List JsonSchema}
    (h : List.Forall₂ (ReadsAs view) schemas others) :
    ReadsAs view (.node [(keyword, .schemas schemas)]) (.node [(keyword, .schemas others)]) := by
  have hne : keyword ≠ Conversion.originKey := by
    rintro rfl
    exact absurd hkeyword (by decide)
  have hsettled : ∀ list, ∀ entry ∈ [(keyword, Keyword.schemas list)], Keyword.Settled entry := by
    intro list entry hentry
    rw [List.mem_singleton.1 hentry]
    exact settled_of_inPlace hne hkeyword (by simp)
  refine readsAs_node hview (hsettled schemas) (hsettled others) ?_
  have hread : (schemas.map fun inner => Json.obj inner.plainFields) =
      others.map fun inner => .obj (view inner) := by
    induction h with
    | nil => rfl
    | cons hfirst _ ih =>
        have hfields : _ = _ := hfirst
        rw [List.map_cons, List.map_cons, ih, hfields]
  simp only [List.map_cons, List.map_nil, Keyword.read, hread]

end ReadsAs

end JsonSchema

/-! ## The law -/

/-- The same options with origins shown or not. -/
def Options.showing (options : Options) (shown : Bool) : Options :=
  { options with showOriginTypes := shown }

namespace Conversion

open JsonSchema

/-- The same conversion with origins shown or not. -/
def showing (c : Conversion) (shown : Bool) : Conversion :=
  { c with options := c.options.showing shown }

variable {c : Conversion} {schema : Schema} {view : JsonSchema → Fields Json}

section Restrictions

variable (hview : Reading view)
include hview

theorem readsAs_putFacet {s t : JsonSchema} (h : ReadsAs view s t) {keyword : String}
    (hkeyword : keyword ∈ lengthKeywords ++ boundKeywords) (facet? : Option String) :
    ReadsAs view (putFacet keyword facet? s) (putFacet keyword facet? t) := by
  have hplain : keyword ∉ schemaKeywords := by
    have hfacets : ∀ facet ∈ lengthKeywords ++ boundKeywords, facet ∉ schemaKeywords := by decide
    exact hfacets keyword hkeyword
  unfold putFacet
  split
  · exact h
  · exact h.put hview (settled_data hplain _) rfl

theorem readsAs_putPatterns {s t : JsonSchema} (h : ReadsAs view s t) (r : Restriction) :
    ReadsAs view (putPatterns r s) (putPatterns r t) := by
  unfold putPatterns
  split
  · exact h
  · exact h.put hview (settled_data (by decide) _) rfl
  · rename_i patterns _ _
    refine h.put hview (settled_of_inPlace (by decide)
      (by decide : "allOf" ∈ Json.listKeywords) (by simp)) ?_
    -- Each pattern is a schema of its own.
    have hpattern : ∀ pattern, (patternSchema pattern).plainFields = view (patternSchema pattern) :=
      fun pattern => readsAs_self_of_data hview fun entry hentry => by
        rw [List.mem_singleton.1 hentry]
        exact ⟨settled_data (by decide) _, _, rfl⟩
    simp only [patternSchema] at hpattern
    simp only [Keyword.read, List.map_map, Function.comp_def, hpattern]

theorem readsAs_putFacets {s t : JsonSchema} (h : ReadsAs view s t) (type : Json)
    (r : Restriction) : ReadsAs view (putFacets type r s) (putFacets type r t) := by
  have hlengths : ReadsAs view (putLengths r s) (putLengths r t) :=
    readsAs_putFacet hview (readsAs_putFacet hview (readsAs_putFacet hview
      (readsAs_putFacet hview h (by decide) _) (by decide) _) (by decide) _) (by decide) _
  have hbounds : ReadsAs view (putBounds r s) (putBounds r t) :=
    readsAs_putFacet hview (readsAs_putFacet hview (readsAs_putFacet hview
      (readsAs_putFacet hview h (by decide) _) (by decide) _) (by decide) _) (by decide) _
  unfold putFacets
  split
  · exact readsAs_putPatterns hview hlengths r
  · exact hbounds
  · exact hbounds
  · exact h

theorem readsAs_putEnumeration {s t : JsonSchema} (h : ReadsAs view s t) (r : Restriction) :
    ReadsAs view (putEnumeration r s) (putEnumeration r t) := by
  unfold putEnumeration
  split
  · exact h
  · exact h.put hview
      (settled_of_inPlace (by decide) (by decide : "enum" ≠ "$ref") (by simp)) rfl

end Restrictions

theorem readsAs_bareTypeSchema (hview : Reading view) (typeName : String) :
    ReadsAs view (c.bareTypeSchema typeName) (c.bareTypeSchema typeName) := by
  unfold bareTypeSchema
  split
  · refine readsAs_self_of_data hview fun entry hentry => ?_
    rcases List.mem_cons.1 hentry with rfl | hentry
    · exact ⟨settled_data (by decide) _, _, rfl⟩
    · obtain ⟨format, -, rfl⟩ := List.mem_map.1 hentry
      exact ⟨settled_data (by decide) _, _, rfl⟩
  · refine readsAs_self_of_data hview fun entry hentry => ?_
    rw [List.mem_singleton.1 hentry]
    exact ⟨settled_data (by decide) _, _, rfl⟩

/-- How a conversion that shows origins compares with one that does not: noting an origin is not
seen, and what the table of primitive types holds reads alike. -/
structure OriginsHidden (c : Conversion) (shown : Bool) (view : JsonSchema → Fields Json) : Prop where
  reading : Reading view
  origin : ∀ typeName {s t}, ReadsAs view s t →
    ReadsAs view ((c.showing shown).noteOrigin typeName s) t
  base : ∀ typeName, ReadsAs view (baseSchema (c.typeMap.keywords typeName))
    (baseSchema (c.typeMap.keywords typeName))
  unionMember : ∀ typeName, ReadsAs view (c.unionMemberSchema typeName) (c.unionMemberSchema typeName)

theorem OriginsHidden.sideBySide {shown : Bool} (h : c.OriginsHidden shown view) :
    SideBySide (c.showing shown) (c.showing false) .identity schema (ReadsAs view) (ReadsAs view) where
  registry := (Registry.rename_identity _).symm
  unconstrained := readsAs_unconstrained h.reading
  array := readsAs_array h.reading none
  object := readsAs_object h.reading
  allOf hbase hadded := readsAs_composition h.reading (by decide) (.cons hbase (.cons hadded .nil))
  update := ReadsAs.update h.reading
  property := id
  member m _ hsingle := by
    rw [Element.rename_identity, OpenNames.rename_identity, Member.rename_identity] at *
    exact presented_rel (readsAs_unconstrained h.reading) (readsAs_array h.reading) m.element _ hsingle
  typeName name := h.origin name (readsAs_bareTypeSchema h.reading name)
  elementType name :=
    (h.origin name (readsAs_unconstrained h.reading)).update h.reading
      (readsAs_bareTypeSchema h.reading name)
  restriction r := by
    rw [Restriction.rename_identity]
    unfold restrictionSchema?
    cases nonempty? r.base? with
    | none => exact .none
    | some base =>
        have hmap : ∀ shown, (c.showing shown).typeMap = c.typeMap := fun _ => rfl
        simp only [hmap]
        split
        · exact .some (readsAs_putFacets h.reading
            (readsAs_putEnumeration h.reading (h.origin base (h.base base)) r) _ r)
        · exact .none
  union u := by
    rw [Union.rename_identity]
    unfold unionSchema?
    split
    · exact .none
    · refine .some (readsAs_composition h.reading (by decide) ?_)
      rw [List.forall₂_map_left_iff, List.forall₂_map_right_iff, List.forall₂_same]
      exact fun typeName _ => h.unionMember typeName

/-- Schema documents read alike, node by node. -/
theorem OriginsHidden.schemaDocument {shown : Bool} (h : c.OriginsHidden shown view)
    (hc : c.registry = Registry.ofSchema schema) (names : OpenNames) :
    ReadsAs view ((c.showing shown).schemaDocument names schema)
      ((c.showing false).schemaDocument names schema) := by
  have hroots := h.sideBySide.declaredRoots hc names
  have hdefinitions := h.sideBySide.definitions hc names
  rw [OpenNames.rename_identity, Schema.rename_identity] at hroots hdefinitions
  have hkey : c.options.dialect.definitionsKey ≠ originKey ∧
      c.options.dialect.definitionsKey ∈ Json.tableKeywords := by
    cases c.options.dialect <;> decide
  have hsettled : ∀ shown, ∀ entry ∈ ((c.showing shown).schemaDocument names schema).keywords,
      Keyword.Settled entry := by
    intro shown entry hentry
    simp only [Conversion.schemaDocument, keywords, List.mem_cons, List.not_mem_nil,
      or_false] at hentry
    rcases hentry with rfl | rfl | rfl | rfl | rfl
    · exact settled_data (by decide) _
    · exact settled_data (by decide) _
    · exact settled_of_inPlace (by decide) (by decide : "properties" ∈ Json.tableKeywords) (by simp)
    · exact settled_of_inPlace (by decide) (by decide : "required" ≠ "$ref") (by simp)
    · exact settled_of_inPlace hkey.1 hkey.2 (by simp)
  refine readsAs_node h.reading (hsettled shown) (hsettled false) ?_
  simp only [List.map_cons, List.map_nil, read_named (declaredProperties_alike .nil hroots),
    declaredRequired_alike [] hroots, read_named hdefinitions]
  rfl

/-- Noting an origin adds nothing to the fields without origins. -/
theorem originsHidden_plainFields (shown : Bool) : c.OriginsHidden shown plainFields where
  reading := plainFields_reading
  origin typeName s t h := by
    unfold noteOrigin
    split
    · exact (plainFields_put_originKey s _).trans h
    · exact h
  base typeName := rfl
  unionMember typeName := rfl

/-- The table of primitive types notes no origin. -/
def MapUnmarked (c : Conversion) : Prop :=
  ∀ typeName, ∀ entry ∈ c.typeMap.keywords typeName,
    entry.1 ≠ originKey ∧ Json.valueWithoutOrigins entry.1 entry.2 = entry.2

/-- Where no origins are shown and none are mapped, there are none. -/
theorem originsHidden_fields (hmap : c.MapUnmarked) : c.OriginsHidden false fields where
  reading := fields_reading
  origin typeName s t h := h
  base typeName := by
    -- The keywords that a restriction takes over are laid down one after another.
    rw [baseSchema_eq]
    refine List.foldlRecOn (motive := fun s => ReadsAs fields s s) _ _ ?_ fun s hs keyword _ => ?_
    · refine readsAs_self_of_data fields_reading fun entry hentry => ?_
      rw [List.mem_singleton.1 hentry]
      exact ⟨settled_data (by decide) _, _, rfl⟩
    · unfold inheritKeyword
      split
      · exact hs
      · exact hs
      · rename_i value _ hvalue
        obtain ⟨hne, hdata⟩ := hmap typeName _ (Fields.mem_of_value? hvalue)
        exact hs.put fields_reading ⟨hne, trivial, fun _ heq => by cases heq; exact hdata⟩ rfl
  unionMember typeName := by
    unfold unionMemberSchema
    split
    · refine readsAs_self_of_data fields_reading fun entry hentry => ?_
      obtain ⟨mapped, hmapped, rfl⟩ := List.mem_map.1 hentry
      obtain ⟨hne, hdata⟩ := hmap typeName mapped (List.mem_filter.1 hmapped).1
      exact ⟨⟨hne, trivial, fun _ heq => by cases heq; exact hdata⟩, _, rfl⟩
    · refine readsAs_self_of_data fields_reading fun entry hentry => ?_
      rw [List.mem_singleton.1 hentry]
      exact ⟨settled_data (by decide) _, _, rfl⟩

end Conversion

/-! ## Documents -/

/-- No schema node of a type mapping notes an origin. -/
def Options.MappingsUnmarked (options : Options) : Prop :=
  ∀ entry ∈ options.typeMappings, Json.Unmarked (.obj entry.2)

/-- Built-in types note no origin, and unmarked mappings bring none in. -/
theorem Conversion.mapUnmarked_ofDocument {options : Options} (h : options.MappingsUnmarked)
    (document : Document) : (ofDocument options document).MapUnmarked := by
  intro typeName entry hentry
  rcases mem_keywords_extended hentry with ⟨b, hbuiltin⟩ | ⟨mapping, hmapping, hentry⟩
  · have hplain : entry.1 ∉ JsonSchema.schemaKeywords := by
      have hnone : ∀ keyword ∈ ["type", "format", "minimum", "maximum", "exclusiveMinimum",
          "exclusiveMaximum"], keyword ∉ JsonSchema.schemaKeywords := by decide
      exact hnone entry.1 (plain_of_mem_mapping hbuiltin).1
    have hsettled := JsonSchema.settled_data hplain entry.2
    exact ⟨hsettled.ne_originKey, hsettled.data _ rfl⟩
  · exact (Json.unmarked_obj_iff mapping.2).1 (h mapping hmapping) entry hentry

namespace Xsd.Document

/-- **Origins are annotations only**: with and without them, a conversion fails with the same error, or
both results are the same value once the origins are taken out of every schema node. Without them the
result has none to take out, unless a type mapping has. -/
theorem convertWith_withoutOrigins (document : Document) (options : Options) :
    ((convertWith (options.showing true) document).map fun output => output.toJson.withoutOrigins) =
        ((convertWith (options.showing false) document).map fun output =>
          output.toJson.withoutOrigins) ∧
      (options.MappingsUnmarked → ∀ output,
        convertWith (options.showing false) document = .ok output → output.toJson.Unmarked) := by
  constructor
  · have houtcome := Conversion.sameOutcome_emitWith
      (c := Conversion.ofDocument (options.showing true) document)
      (d := Conversion.ofDocument (options.showing false) document) (r := .identity)
      (R := fun s t => s.toJson.withoutOrigins = t.toJson.withoutOrigins) {} document
      fun schema hschema => by
        have hfields := (Conversion.originsHidden_plainFields true).schemaDocument
          (registry_ofDocument options hschema) {}
        rw [OpenNames.rename_identity, Schema.rename_identity]
        simp only [JsonSchema.withoutOrigins_toJson]
        exact congrArg Json.obj hfields
    rw [OpenNames.rename_identity, rename_identity] at houtcome
    exact houtcome.map_eq
  · intro hmappings output houtput
    obtain ⟨schema, hschema, -, rfl⟩ := convertWith_eq_ok_iff.1 houtput
    have hfields := (Conversion.originsHidden_fields
      (Conversion.mapUnmarked_ofDocument hmappings document)).schemaDocument
        (registry_ofDocument options hschema) {}
    rw [Json.Unmarked, JsonSchema.withoutOrigins_toJson, JsonSchema.toJson_eq]
    exact congrArg Json.obj hfields

/-- Options that map the type that the price document does not declare. -/
def codeOptions : Options :=
  { typeMappings := [("Unknown", [("type", .str "string"), ("format", .str "code")])] }

/-- What the document becomes with origins: one before a reference and one after it. -/
def markedPriceOutput : JsonSchema :=
  .node [("$schema", .text Dialect.draft202012.schemaUri), ("type", .text "object"),
    ("properties", .named
      [("price", .node [(Conversion.originKey, .text "Price"), ("$ref", .text "#/$defs/Price")])]),
    ("required", .names ["price"]),
    ("$defs", .named
      [("Amount", .anyOf [.node [("type", .text "number")],
          .node [("type", .text "string"), ("format", .text "code")]]),
        ("Price", .object [("#text", .node [("$ref", .text "#/$defs/Amount"),
          (Conversion.originKey, .text "Amount")])] ["#text"])])]

/-- What it becomes without them. -/
def plainPriceOutput : JsonSchema :=
  .node [("$schema", .text Dialect.draft202012.schemaUri), ("type", .text "object"),
    ("properties", .named [("price", .reference "#/$defs/Price")]), ("required", .names ["price"]),
    ("$defs", .named
      [("Amount", .anyOf [.node [("type", .text "number")],
          .node [("type", .text "string"), ("format", .text "code")]]),
        ("Price", .object [("#text", .reference "#/$defs/Amount")] ["#text"])])]

/-- Taking both origins out of the price document leaves what is written without them. -/
theorem convertWith_withoutOrigins_priceDocument :
    codeOptions.MappingsUnmarked ∧
      convertWith (codeOptions.showing true) priceDocument = .ok markedPriceOutput ∧
      plainPriceOutput.toJson.Unmarked ∧
      markedPriceOutput.toJson.withoutOrigins = plainPriceOutput.toJson := by
  have hmappings : codeOptions.MappingsUnmarked := by
    intro entry hentry
    rw [List.mem_singleton.1 hentry]
    rfl
  have hmarked : convertWith (codeOptions.showing true) priceDocument = .ok markedPriceOutput := by
    have hwithin : (Conversion.ofDocument (codeOptions.showing true) priceDocument).emitWithin 20 {}
        priceDocument = some (.ok markedPriceOutput) := rfl
    exact convertWith_eq_of_emitWithin hwithin (by decide)
  have hplain : convertWith (codeOptions.showing false) priceDocument = .ok plainPriceOutput := by
    have hwithin : (Conversion.ofDocument (codeOptions.showing false) priceDocument).emitWithin 20 {}
        priceDocument = some (.ok plainPriceOutput) := rfl
    exact convertWith_eq_of_emitWithin hwithin (by decide)
  obtain ⟨hsame, hunmarked⟩ := convertWith_withoutOrigins priceDocument codeOptions
  have hnone : plainPriceOutput.toJson.Unmarked := hunmarked hmappings plainPriceOutput hplain
  rw [hmarked, hplain] at hsame
  exact ⟨hmappings, hmarked, hnone, (Except.ok.inj hsame).trans hnone⟩

end Xsd.Document

end SchemaBridge
