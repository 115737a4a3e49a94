import SchemaBridge.Proofs.JsonSchema.Translation

/-!
# Dialects

The dialect of a conversion shows in three places only: in the value of `$schema`, in the keyword of
the definitions, and in what references start with. So the schema of a document in one dialect is
that in the other one with these three replaced (`Document.convertWith_inDialect`), and everything
else stays, the order of keywords too.

Whatever a conversion writes in another dialect is what it writes in its own one, with other references
(`Conversion.translates_inDialect`). The JSON value of the result
shows which of its parts are schemas, because each keyword of a conversion holds one kind of thing
(`Conversion.placed_schemaDocument`).
-/

set_option autoImplicit false

namespace SchemaBridge

open Xsd JsonSchema

/-! ## Conversions in another dialect -/

/-- The same options in another dialect. -/
def Options.inDialect (options : Options) (dialect : Dialect) : Options :=
  { options with dialect := dialect }

namespace Conversion

/-- The same conversion in another dialect. -/
def inDialect (c : Conversion) (dialect : Dialect) : Conversion :=
  { c with options := c.options.inDialect dialect }

/-- In another dialect, a conversion writes other references. -/
theorem translates_inDialect {c : Conversion} {dialect : Dialect} {f : String → String}
    (hf : ∀ name, f (c.options.dialect.reference name) = dialect.reference name)
    (hmap : c.MapReferFree) : c.Translates (c.inDialect dialect) .identity f where
  registry := (Registry.rename_identity _).symm
  typeMap := rfl
  policy _ := rfl
  fixed _ _ := rfl
  origin _ _ := rfl
  reference := hf
  referFree := hmap

end Conversion

/-! ## Placement of what a conversion writes -/

namespace Conversion

variable {c : Conversion} {schema : Schema}

theorem TypeEntry.inPlace {typeName : String} {entry : String × Keyword}
    (h : c.TypeEntry typeName entry) : Keyword.InPlace entry := by
  cases h <;> exact trivial

theorem RestrictionEntry.inPlace {base : String} {r : Restriction} {entry : String × Keyword}
    (h : c.RestrictionEntry base r entry) : Keyword.InPlace entry := by
  cases h with
  | enumeration => exact (by decide : "enum" ≠ "$ref")
  | patterns => exact (by decide : "allOf" ∈ Json.listKeywords)
  | _ => exact trivial

/-- Every keyword of a node is in its place. -/
def NodeInPlace (node : JsonSchema) : Prop :=
  ∀ entry ∈ node.keywords, Keyword.InPlace entry

theorem inPlace_nodeLaw : NodeLaw c schema NodeInPlace where
  unconstrained := fun _ h => nomatch h
  array minItems? items := by
    intro entry hentry
    rcases List.mem_append.1 hentry with hentry | hentry
    · rcases List.mem_cons.1 hentry with rfl | hentry
      · exact trivial
      · obtain ⟨n, -, rfl⟩ := List.mem_map.1 hentry
        exact trivial
    · rw [List.mem_singleton.1 hentry]
      exact rfl
  object earlier declared _ := by
    intro entry hentry
    simp only [JsonSchema.object, JsonSchema.keywords, List.mem_cons, List.not_mem_nil,
      or_false] at hentry
    rcases hentry with rfl | rfl | rfl
    · exact trivial
    · exact (by decide : "properties" ∈ Json.tableKeywords)
    · exact (by decide : "required" ≠ "$ref")
  allOf schemas := by
    intro entry hentry
    rw [List.mem_singleton.1 hentry]
    exact (by decide : "allOf" ∈ Json.listKeywords)
  anyOf schemas := by
    intro entry hentry
    rw [List.mem_singleton.1 hentry]
    exact (by decide : "anyOf" ∈ Json.listKeywords)
  merged keywords names type hkeywords hcomplex := by
    intro entry hentry
    rcases Fields.mem_of_mem_update hentry with hold | hnew
    · exact hkeywords entry hold
    · exact hcomplex entry hnew
  typeName name _ := fun _ hentry => (typeEntry_of_mem_typeSchema hentry).inPlace
  elementType name _ := fun _ hentry => (typeEntry_of_mem_namedSchema hentry).inPlace
  unionMember name _ := fun _ hentry => (typeEntry_of_mem_unionMemberSchema hentry).inPlace
  restriction r s h := by
    obtain ⟨base, hkeywords⟩ := exists_ofRestriction h
    exact fun entry hentry => (hkeywords entry hentry).inPlace
  pattern p := by
    intro entry hentry
    rw [List.mem_singleton.1 hentry]
    exact trivial

theorem inPlace_schemaDocument (names : OpenNames) (schema : Schema) :
    NodeInPlace (c.schemaDocument names schema) := by
  intro entry hentry
  simp only [schemaDocument, JsonSchema.keywords, List.mem_cons, List.not_mem_nil,
    or_false] at hentry
  have hkey : c.options.dialect.definitionsKey ∈ Json.tableKeywords := by
    cases c.options.dialect <;> decide
  rcases hentry with rfl | rfl | rfl | rfl | rfl
  · exact trivial
  · exact trivial
  · exact (by decide : "properties" ∈ Json.tableKeywords)
  · exact (by decide : "required" ≠ "$ref")
  · exact hkey

/-- Every node of a converted schema holds schemas in their places, and no reference in its data. -/
theorem placed_schemaDocument (hmap : c.MapReferFree) (hc : c.registry = Registry.ofSchema schema)
    (names : OpenNames) : (c.schemaDocument names schema).Everywhere Placed := by
  have hplaces := inPlace_nodeLaw.schemaDocument hc (inPlace_schemaDocument names schema)
  have hrefers := (refersOnly_nodeLaw hmap).schemaDocument hc
    (refersOnly_schemaDocument names schema)
  intro node hnode entry hentry
  exact ⟨hplaces node hnode entry hentry, (hrefers node hnode entry hentry).data_free⟩

end Conversion

/-! ## The switch of dialects -/

/-- A reference to a definition in one dialect as one in another dialect; any other text as it is. -/
def Dialect.translate (source target : Dialect) (text : String) : String :=
  match source.referenceStem.toList.isPrefixOf? text.toList with
  | some name => target.referenceStem ++ String.ofList name
  | none => text

theorem Dialect.translate_reference (source target : Dialect) (name : String) :
    source.translate target (source.reference name) = target.reference name := by
  have hname : source.referenceStem.toList.isPrefixOf?
      (source.referenceStem.toList ++ name.toList) = some name.toList :=
    List.isPrefixOf?_eq_some_iff_append_eq.2 rfl
  simp only [translate, reference, String.toList_append, hname, String.ofList_toList]

/-- The top of a schema document in another dialect: the value of `$schema` and the keyword of the
definitions are replaced where they stand. -/
def Json.switchTop (source target : Dialect) : Json → Json
  | .obj fields =>
      .obj (fields.map fun entry =>
        if entry.1 = "$schema" then (entry.1, .str target.schemaUri)
        else if entry.1 = source.definitionsKey then (target.definitionsKey, entry.2)
        else entry)
  | value => value

/-- A schema document in another dialect: with its top replaced, and with the references of all its
schemas translated. -/
def Json.switchDialect (source target : Dialect) (output : Json) : Json :=
  (output.mapReferences (source.translate target)).switchTop source target

namespace Conversion

variable {c : Conversion} {schema : Schema}

theorem toJson_schemaDocument_inDialect (hmap : c.MapReferFree)
    (hc : c.registry = Registry.ofSchema schema) (target : Dialect) (names : OpenNames) :
    ((c.inDialect target).schemaDocument names schema).toJson =
      (c.schemaDocument names schema).toJson.switchDialect c.options.dialect target := by
  have htarget := (translates_inDialect (c.options.dialect.translate_reference target)
    hmap).schemaDocument hc names
  rw [OpenNames.rename_identity, Schema.rename_identity] at htarget
  rw [Json.switchDialect, ← toJson_mapReferences _ _ (placed_schemaDocument hmap hc names),
    mapReferences_schemaDocument, htarget]
  simp only [toJson, keywordsToJson, Json.switchTop, List.map_cons, List.map_nil]
  -- No other keyword of a document is one of the two that are replaced.
  cases c.options.dialect <;> simp [Dialect.definitionsKey, keywordToJson, Keyword.text, inDialect,
    Options.inDialect, Renaming.identity]

/-- A conversion in another dialect fails with the same error, or writes the same document with the
dialect switched. -/
theorem emitWith_inDialect (hmap : c.MapReferFree) {document : Document}
    (hc : c.registry = Registry.ofDocument document) (target : Dialect) (names : OpenNames) :
    ((c.inDialect target).emitWith names document).map toJson =
      ((c.emitWith names document).map toJson).map
        (Json.switchDialect c.options.dialect target) := by
  unfold emitWith
  cases hschema : document.schema? with
  | none => rfl
  | some schema =>
      have hregistry : c.registry = Registry.ofSchema schema := by
        rw [hc, Registry.ofDocument, hschema]
      cases hroots : schema.elements.isEmpty with
      | true => simp only [hroots, if_true, Except.map]
      | false =>
          simp only [hroots, Bool.false_eq_true, if_false, Except.map]
          rw [toJson_schemaDocument_inDialect hmap hregistry]

end Conversion

/-! ## Tables of options -/

namespace Options

/-- A table of options that chooses a dialect. -/
def choosing (dialect : Dialect) (fields : Fields Json) : Fields Json :=
  fields.put "schema_dialect" (.str dialect.name)

theorem dialectOf_name (dialect : Dialect) : dialectOf (.str dialect.name) = .ok dialect := by
  cases dialect <;> rfl

/-- The dialect is one of the options and nothing else depends on it. -/
theorem ofFields_choosing (fields : Fields Json) (source target : Dialect) :
    ofFields (choosing target fields) =
      (ofFields (choosing source fields)).map fun options => options.inDialect target := by
  have hunknown : ∀ dialect, (Fields.names (choosing dialect fields)).filter
        (fun name => !optionNames.contains name) =
      (Fields.names fields).filter fun name => !optionNames.contains name := by
    intro dialect
    rw [choosing, Fields.names_put]
    split
    · rfl
    · rw [List.filter_append]
      exact List.append_nil _
  have hother : ∀ dialect name, name ≠ "schema_dialect" →
      (choosing dialect fields).value? name = fields.value? name := fun dialect name hne =>
    Fields.value?_put_of_ne fields (.str dialect.name) hne
  have hchosen : ∀ dialect, (choosing dialect fields).value? "schema_dialect" =
      some (.str dialect.name) := fun dialect => Fields.value?_put_self ..
  unfold ofFields flag mappingsOf
  simp only [hunknown, hchosen, dialectOf_name, hother _ "array_element_names" (by decide),
    hother _ "treat_unbounded_as_array" (by decide), hother _ "show_origin_types" (by decide),
    hother _ "type_mappings" (by decide)]
  split
  · rfl
  · cases namesOf ((fields.value? "array_element_names").getD (.arr [])) <;> rfl

theorem typeMappings_of_ofFields {fields : Fields Json} {options : Options}
    (h : ofFields fields = .ok options) : options.typeMappings = mappingsOf fields := by
  unfold ofFields at h
  simp only [bind, Except.bind, pure, Except.pure] at h
  repeat' split at h
  all_goals cases h
  all_goals rfl

/-- Mappings without a reference are read from a value without one. -/
theorem mappingsReferFree_ofFields {fields : Fields Json} {options : Options}
    (h : ofFields fields = .ok options)
    (hmappings : ∀ mappings, fields.value? "type_mappings" = some mappings →
      ∀ value, ¬ Json.HasField "$ref" value mappings) : options.MappingsReferFree := by
  intro entry hentry value hfield
  rw [typeMappings_of_ofFields h, mappingsOf] at hentry
  obtain ⟨mapping, hmapping, rfl⟩ := List.mem_map.1 hentry
  cases htable : fields.value? "type_mappings" with
  | none =>
      rw [htable] at hmapping
      cases hmapping
  | some mappings =>
      rw [htable] at hmapping
      cases mappings with
      | obj table =>
          obtain ⟨name, keywords⟩ := mapping
          cases keywords with
          | obj keywords => exact hmappings _ htable value (.field hmapping hfield)
          | _ => rcases hfield with h | ⟨h, -⟩ <;> cases h
      | _ => cases hmapping

end Options

/-! ## Documents -/

namespace Xsd.Document

/-- **The switch of dialects is a renaming**: conversions of a document that differ in the dialect fail
with the same error, or one of the results is the other one with the value of `$schema`, the keyword of
the definitions and the stems of references replaced. -/
theorem convertWith_inDialect (document : Document) {options : Options}
    (hmappings : options.MappingsReferFree) (source target : Dialect) :
    (convertWith (options.inDialect target) document).map toJson =
      ((convertWith (options.inDialect source) document).map toJson).map
        (Json.switchDialect source target) := by
  -- Which dialect is chosen does not touch the type mappings.
  have hfree : (Conversion.ofDocument (options.inDialect source) document).MapReferFree :=
    Conversion.mapReferFree_ofDocument hmappings document
  exact Conversion.emitWith_inDialect hfree rfl target {}

/-- The schema of the price document in draft-07. -/
def priceOutputDraft07 : JsonSchema :=
  .node [("$schema", .text Dialect.draft07.schemaUri), ("type", .text "object"),
    ("properties", .named [("price", .reference "#/definitions/Price")]),
    ("required", .names ["price"]),
    ("definitions", .named
      [("Amount", .anyOf [.node [("type", .text "number")], .reference "#/definitions/Unknown"]),
        ("Price", .object [("#text", .reference "#/definitions/Amount")] ["#text"])])]

/-- A dangling reference is renamed as the others are. -/
theorem convertWith_inDialect_priceDocument :
    ({} : Options).MappingsReferFree ∧
      (convertWith (({} : Options).inDialect .draft07) priceDocument).map toJson =
        .ok priceOutputDraft07.toJson := by
  have hfree : ({} : Options).MappingsReferFree := fun _ h => nomatch h
  have hswitched : priceOutput.toJson.switchDialect .draft202012 .draft07 =
      priceOutputDraft07.toJson := rfl
  have hsource : convertWith (({} : Options).inDialect .draft202012) priceDocument =
      .ok priceOutput := convertWith_priceDocument
  refine ⟨hfree, ?_⟩
  rw [convertWith_inDialect priceDocument hfree .draft202012 .draft07, hsource, ← hswitched]
  rfl

/-- The same for options that are given as a table: the choice of a dialect changes nothing but the
dialect of the result, and errors in other options stay. -/
theorem convert_choosing (document : Document) {fields : Fields Json}
    (hmappings : ∀ mappings, fields.value? "type_mappings" = some mappings →
      ∀ value, ¬ Json.HasField "$ref" value mappings) (source target : Dialect) :
    (convert document (some (Options.choosing target fields))).map toJson =
      ((convert document (some (Options.choosing source fields))).map toJson).map
        (Json.switchDialect source target) := by
  have hchosen := Options.ofFields_choosing fields source source
  simp only [convert, Options.resolve, Options.ofFields_choosing fields source target]
  cases hoptions : Options.ofFields (Options.choosing source fields) with
  | error failure => rfl
  | ok options =>
      rw [hoptions] at hchosen
      have hsource : options = options.inDialect source := Except.ok.inj hchosen
      have hfree : options.MappingsReferFree :=
        Options.mappingsReferFree_ofFields hoptions fun mappings hmapping => by
          rw [Options.choosing, Fields.value?_put_of_ne _ _ (by decide)] at hmapping
          exact hmappings mappings hmapping
      have hswitch := Conversion.emitWith_inDialect (c := Conversion.ofDocument options document)
        (Conversion.mapReferFree_ofDocument hfree document) rfl target {}
      have hdialect : options.dialect = source := congrArg Options.dialect hsource
      simp only [Conversion.ofDocument, hdialect] at hswitch
      exact hswitch

end Xsd.Document

end SchemaBridge
