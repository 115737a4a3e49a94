import SchemaBridge.Proofs.JsonSchema.Content
import SchemaBridge.Proofs.JsonSchema.Walk
import SchemaBridge.Proofs.Xsd.Nesting

/-!
# Where schemas of simple types lead

Below a type name a walk either goes on in the definition of that name or, for a primitive type,
ends (`offers_typeSchema_iff`). Restrictions and unions lead nowhere: a restriction only sets
keywords of its own, none of which a walk follows (`not_offers_restrictionSchema?`). A list leads
wherever the type of its items does (`offers_simpleTypeSchema?_iff`).

Of all simple types only lists are arrays, as long as no built-in type is
(`isArray_simpleTypeSchema?_iff`).
-/

set_option autoImplicit false

namespace SchemaBridge

open Xsd JsonSchema

/-! ## Built-in types -/

namespace Xsd

theorem Builtin.type_ne_array (b : Builtin) : ("type", .str "array") ∉ b.mapping := by
  cases b <;> simp [Builtin.mapping, Builtin.ofType, Builtin.ofFormat, Builtin.boundedAtZero]

/-- A keyword of a built-in type is one of its own mapping. -/
theorem TypeMap.exists_of_mem_builtin {typeName : String} {entry : String × Json}
    (h : entry ∈ TypeMap.builtin.keywords typeName) : ∃ b : Builtin, entry ∈ b.mapping := by
  unfold TypeMap.keywords at h
  cases hvalue : TypeMap.builtin.value? typeName with
  | none =>
      rw [hvalue] at h
      cases h
  | some keywords =>
      rw [hvalue] at h
      obtain ⟨b, -, heq⟩ := List.mem_map.1 (Fields.mem_of_value? hvalue)
      cases heq
      exact ⟨b, h⟩

/-- No built-in type is an array, whatever stands for a missing type. -/
theorem TypeMap.builtin_type_ne_array (typeName : String) :
    ((TypeMap.builtin.keywords typeName).value? "type").getD .null ≠ .str "array" := by
  cases htype : (TypeMap.builtin.keywords typeName).value? "type" with
  | none => simp
  | some type =>
      obtain ⟨b, hb⟩ := TypeMap.exists_of_mem_builtin (Fields.mem_of_value? htype)
      rw [Option.getD_some]
      rintro rfl
      exact b.type_ne_array hb

mutual

/-- The name of the type of a list's items, through lists of lists. -/
def SimpleType.itemName? : SimpleType → Option String
  | ⟨_, _, _, some list⟩ => list.itemName?
  | ⟨_, _, _, none⟩ => none

/-- The name of the type of the items. -/
def ListType.itemName? : ListType → Option String
  | ⟨itemType?, simpleType?⟩ =>
      match nonempty? itemType?, simpleType? with
      | some typeName, _ => some typeName
      | none, some type => type.itemName?
      | none, none => none

end

theorem SimpleType.itemName?_of_list {type : SimpleType} {list : ListType}
    (h : type.list? = some list) : type.itemName? = list.itemName? := by
  cases type
  cases h
  rw [SimpleType.itemName?]

theorem SimpleType.itemName?_of_no_list {type : SimpleType} (h : type.list? = none) :
    type.itemName? = none := by
  cases type
  cases h
  rw [SimpleType.itemName?]

theorem ListType.itemName?_eq (list : ListType) :
    list.itemName? =
      match nonempty? list.itemType?, list.simpleType? with
      | some typeName, _ => some typeName
      | none, some type => type.itemName?
      | none, none => none := by
  cases list
  exact ListType.itemName?.eq_def _

/-- Induction from the inline types of items to their lists. -/
theorem SimpleType.itemsInduction {motive : SimpleType → Prop}
    (step : ∀ type, (∀ list inner, type.list? = some list → list.simpleType? = some inner →
      motive inner) → motive type) (type : SimpleType) : motive type := by
  induction hnesting : type.nesting using Nat.strongRecOn generalizing type with
  | _ nesting ih =>
      refine step type fun list inner hlist hinner => ?_
      have houter := SimpleType.nesting_lt hlist
      have hinner' := ListType.nesting_lt hinner
      exact ih inner.nesting (by omega) inner rfl

end Xsd

namespace Conversion

variable {c : Conversion}

/-! ## Type names -/

theorem value?_noteOrigin (typeName : String) (schema : JsonSchema) {keyword : String}
    (h : keyword ≠ originKey) :
    (c.noteOrigin typeName schema).value? keyword = schema.value? keyword := by
  unfold noteOrigin
  split
  · rw [value?_put, if_neg (Ne.symm h)]
  · rfl

/-- The schema of a primitive type has no other keywords than its type and format. -/
theorem value?_primitiveSchema (typeName : String) {keyword : String}
    (htype : keyword ≠ "type") (hformat : keyword ≠ "format") :
    (c.primitiveSchema typeName).value? keyword = none := by
  simp only [primitiveSchema, value?, keywords]
  cases ((c.typeMap.keywords typeName).value? "format").filter Json.isPresent with
  | none => simp [Fields.value?, Ne.symm htype]
  | some format => simp [Fields.value?, Ne.symm htype, Ne.symm hformat]

/-- **A type name leads to its definition**, and to nothing when the type is primitive. -/
theorem offers_bareTypeSchema_iff {definitions : Fields JsonSchema} {typeName name : String}
    {opened : List String} {property : JsonSchema} :
    Offers c.options.dialect definitions (c.bareTypeSchema typeName) opened name property ↔
      c.typeMap.isPrimitive typeName = false ∧
      ∃ definition rest, opened = typeName :: rest ∧
        definitions.value? typeName = some definition ∧
        Offers c.options.dialect definitions definition rest name property := by
  unfold bareTypeSchema
  cases hprimitive : c.typeMap.isPrimitive typeName with
  | true =>
      simp only [if_true, Bool.true_eq_false, false_and, iff_false]
      apply not_offers
      intro keyword hkeyword
      apply value?_primitiveSchema <;> rintro rfl <;> simp at hkeyword
  | false =>
      simp only [Bool.false_eq_true, if_false, true_and]
      exact offers_reference

theorem offers_typeSchema_iff {definitions : Fields JsonSchema} {typeName name : String}
    {opened : List String} {property : JsonSchema} :
    Offers c.options.dialect definitions (c.typeSchema typeName) opened name property ↔
      c.typeMap.isPrimitive typeName = false ∧
      ∃ definition rest, opened = typeName :: rest ∧
        definitions.value? typeName = some definition ∧
        Offers c.options.dialect definitions definition rest name property := by
  rw [← offers_bareTypeSchema_iff]
  apply offers_congr
  intro keyword hkeyword
  apply value?_noteOrigin
  rintro rfl
  simp [originKey] at hkeyword

/-- The schema of an element of a named type: the origin goes before the type. -/
def namedSchema (c : Conversion) (typeName : String) : JsonSchema :=
  (c.noteOrigin typeName .unconstrained).update (c.bareTypeSchema typeName)

theorem value?_namedSchema (typeName : String) {keyword : String} (h : keyword ≠ originKey) :
    (c.namedSchema typeName).value? keyword = (c.bareTypeSchema typeName).value? keyword := by
  -- No keyword of a bare type comes twice, so laying it over another table keeps it.
  have hentries : Fields.ofEntries (c.bareTypeSchema typeName).keywords =
      (c.bareTypeSchema typeName).keywords := by
    unfold bareTypeSchema
    split
    · simp only [primitiveSchema]
      cases ((c.typeMap.keywords typeName).value? "format").filter Json.isPresent <;> rfl
    · rfl
  rw [namedSchema, value?_update, value?_noteOrigin _ _ h, hentries]
  exact Option.or_none

theorem offers_namedSchema_iff {definitions : Fields JsonSchema} {typeName name : String}
    {opened : List String} {property : JsonSchema} :
    Offers c.options.dialect definitions (c.namedSchema typeName) opened name property ↔
      Offers c.options.dialect definitions (c.typeSchema typeName) opened name property := by
  apply offers_congr
  intro keyword hkeyword
  have hne : keyword ≠ originKey := by
    rintro rfl
    simp [originKey] at hkeyword
  rw [value?_namedSchema _ hne, typeSchema, value?_noteOrigin _ _ hne]

/-- A type name stands for no array. -/
theorem not_isArray_namedSchema (hmap : c.typeMap = TypeMap.builtin) (typeName : String) :
    ¬ (c.namedSchema typeName).IsArray := by
  rw [IsArray, value?_namedSchema _ (by decide), bareTypeSchema]
  split
  · have hne := TypeMap.builtin_type_ne_array typeName
    rw [← hmap] at hne
    intro htype
    simp only [primitiveSchema, value?, keywords, Fields.value?, Keyword.text, if_true,
      Option.some.injEq, Keyword.data.injEq] at htype
    exact hne htype
  · simp [referenceTo, reference, value?, keywords, Fields.value?]

/-! ## Restrictions -/

theorem value?_putFacet {keyword other : String} (h : keyword ≠ other) (facet? : Option String)
    (schema : JsonSchema) :
    (putFacet keyword facet? schema).value? other = schema.value? other := by
  unfold putFacet
  split
  · rfl
  · rw [value?_put, if_neg h]

/-- The keywords of lengths. -/
def lengthKeywords : List String := ["minLength", "maxLength"]

theorem value?_putLengths {keyword : String} (h : keyword ∉ lengthKeywords) (r : Restriction)
    (schema : JsonSchema) : (putLengths r schema).value? keyword = schema.value? keyword := by
  have hne : ∀ facet ∈ lengthKeywords, facet ≠ keyword := fun facet hmem heq => h (heq ▸ hmem)
  simp only [lengthKeywords, List.forall_mem_cons] at hne
  obtain ⟨hmin, hmax, -⟩ := hne
  rw [putLengths, value?_putFacet hmax, value?_putFacet hmin, value?_putFacet hmax,
    value?_putFacet hmin]

/-- The keywords of bounds. -/
def boundKeywords : List String := ["minimum", "maximum", "exclusiveMinimum", "exclusiveMaximum"]

theorem value?_putBounds {keyword : String} (h : keyword ∉ boundKeywords) (r : Restriction)
    (schema : JsonSchema) : (putBounds r schema).value? keyword = schema.value? keyword := by
  have hne : ∀ facet ∈ boundKeywords, facet ≠ keyword := fun facet hmem heq => h (heq ▸ hmem)
  simp only [boundKeywords, List.forall_mem_cons] at hne
  obtain ⟨hmin, hmax, hexmin, hexmax, -⟩ := hne
  rw [putBounds, value?_putFacet hexmax, value?_putFacet hexmin, value?_putFacet hmax,
    value?_putFacet hmin]

theorem value?_putPatterns {keyword : String} (hpattern : keyword ≠ "pattern")
    (hallOf : keyword ≠ "allOf") (r : Restriction) (schema : JsonSchema) :
    (putPatterns r schema).value? keyword = schema.value? keyword := by
  unfold putPatterns
  split
  · rfl
  · rw [value?_put, if_neg (Ne.symm hpattern)]
  · rw [value?_put, if_neg (Ne.symm hallOf)]

/-- The keywords that the facets of a restriction set. -/
def facetKeywords : List String := lengthKeywords ++ boundKeywords ++ ["pattern", "allOf"]

/-- Facets leave every keyword that is not theirs as it was. -/
theorem value?_putFacets {keyword : String} (h : keyword ∉ facetKeywords) (type : Json)
    (r : Restriction) (schema : JsonSchema) :
    (putFacets type r schema).value? keyword = schema.value? keyword := by
  simp only [facetKeywords, List.mem_append, not_or, List.mem_cons, List.not_mem_nil,
    or_false] at h
  obtain ⟨⟨hlengths, hbounds⟩, hpattern, hallOf⟩ := h
  -- A restriction of a string has lengths and patterns, one of a number has bounds.
  unfold putFacets
  split
  · rw [value?_putPatterns hpattern hallOf, value?_putLengths hlengths]
  · exact value?_putBounds hbounds r schema
  · exact value?_putBounds hbounds r schema
  · rfl

/-- The branches that facets add are patterns, which lead nowhere. -/
theorem not_offers_branch_putFacets {definitions : Fields JsonSchema} {name : String}
    {opened : List String} {property branch : JsonSchema} {type : Json} {r : Restriction}
    {schema : JsonSchema} (hschema : schema.branches = [])
    (h : branch ∈ (putFacets type r schema).branches) :
    ¬ Offers c.options.dialect definitions branch opened name property := by
  have hsame : ∀ s : JsonSchema,
      s.value? "allOf" = schema.value? "allOf" → branch ∉ s.branches := by
    intro s heq
    rw [branches, heq]
    unfold branches at hschema
    rw [hschema]
    exact List.not_mem_nil
  have hlengths := value?_putLengths (by decide : "allOf" ∉ lengthKeywords) r schema
  have hbounds := value?_putBounds (by decide : "allOf" ∉ boundKeywords) r schema
  unfold putFacets at h
  split at h
  · -- Only several patterns add branches.
    unfold putPatterns at h
    split at h
    · exact absurd h (hsame _ hlengths)
    · refine absurd h (hsame _ ?_)
      rw [value?_put, if_neg (by decide), hlengths]
    · simp only [branches, value?_put, if_true] at h
      obtain ⟨pattern, -, rfl⟩ := List.mem_map.1 h
      apply not_offers
      intro keyword hkeyword
      have hne : "pattern" ≠ keyword := by
        rintro rfl
        simp at hkeyword
      simp [value?, keywords, Fields.value?, hne]
  · exact absurd h (hsame _ hbounds)
  · exact absurd h (hsame _ hbounds)
  · exact absurd h (hsame _ rfl)

/-- Take one keyword over from a base. -/
def inheritKeyword (base : Fields Json) (schema : JsonSchema) (keyword : String) : JsonSchema :=
  match base.value? keyword with
  | none | some .null => schema
  | some value => schema.put keyword (.data value)

theorem baseSchema_eq (base : Fields Json) :
    baseSchema base =
      inheritedKeywords.foldl (inheritKeyword base)
        (.node [("type", .data ((base.value? "type").getD .null))]) := rfl

theorem value?_inheritKeyword (base : Fields Json) (schema : JsonSchema)
    (keyword other : String) :
    (inheritKeyword base schema keyword).value? other = schema.value? other ∨
      keyword = other ∧ ∃ value, base.value? keyword = some value ∧
        (inheritKeyword base schema keyword).value? other = some (.data value) := by
  unfold inheritKeyword
  by_cases h : keyword = other
  · subst h
    split
    · exact Or.inl rfl
    · exact Or.inl rfl
    · rename_i value _ hvalue
      exact Or.inr ⟨rfl, value, hvalue, by rw [value?_put, if_pos rfl]⟩
  · split
    · exact Or.inl rfl
    · exact Or.inl rfl
    · exact Or.inl (by rw [value?_put, if_neg h])

/-- A keyword that is not taken over is not set. -/
theorem value?_baseSchema_eq_none (base : Fields Json) {keyword : String}
    (h : keyword ∉ inheritedKeywords) : (baseSchema base).value? keyword = none := by
  have htype : "type" ≠ keyword := fun heq => h (heq ▸ by decide)
  rw [baseSchema_eq]
  refine List.foldlRecOn (motive := fun s : JsonSchema => s.value? keyword = none) _ _ ?_
    fun schema hschema other hother => ?_
  · simp [value?, keywords, Fields.value?, htype]
  · rcases value?_inheritKeyword base schema other keyword with heq | ⟨rfl, -⟩
    · exact heq.trans hschema
    · exact absurd hother h

theorem value?_baseSchema_type (base : Fields Json) :
    (baseSchema base).value? "type" = some (.data ((base.value? "type").getD .null)) := by
  rw [baseSchema_eq]
  refine List.foldlRecOn (motive := fun s : JsonSchema =>
    s.value? "type" = some (.data ((base.value? "type").getD .null))) _ _ rfl
    fun schema hschema other _ => ?_
  rcases value?_inheritKeyword base schema other "type" with heq | ⟨rfl, value, hvalue, heq⟩
  · exact heq.trans hschema
  · rw [heq, hvalue, Option.getD_some]

/-- What is taken over from a base stands there. -/
theorem exists_of_value?_baseSchema {base : Fields Json} {keyword : String} {value : Keyword}
    (htype : keyword ≠ "type") (h : (baseSchema base).value? keyword = some value) :
    ∃ data, base.value? keyword = some data ∧ value = .data data := by
  rw [baseSchema_eq] at h
  -- The loop starts with the type alone, and each step sets at most the keyword it is for.
  revert h
  refine List.foldlRecOn (motive := fun s : JsonSchema => s.value? keyword = some value →
    ∃ data, base.value? keyword = some data ∧ value = .data data) _ _ ?_ ?_
  · intro h
    simp [JsonSchema.value?, JsonSchema.keywords, Fields.value?, Ne.symm htype] at h
  · intro schema hschema other _ h
    rcases value?_inheritKeyword base schema other keyword with heq | ⟨rfl, data, hdata, heq⟩
    · exact hschema (heq ▸ h)
    · exact ⟨data, hdata, Option.some.inj (h.symm.trans heq)⟩

/-- What is taken over from a base is plain data, so it has no branches. -/
theorem branches_baseSchema (base : Fields Json) : (baseSchema base).branches = [] := by
  unfold branches
  split
  · rename_i schemas hschemas
    obtain ⟨data, -, heq⟩ := exists_of_value?_baseSchema (by decide) hschemas
    cases heq
  · rfl

/-- The schema of a restriction from that of its base: enumerated values, then facets. -/
theorem restrictionSchema?_eq_some_iff {r : Restriction} {schema : JsonSchema} :
    c.restrictionSchema? r = some schema ↔
      ∃ base, nonempty? r.base? = some base ∧ c.typeMap.isPrimitive base = true ∧
        schema = putFacets (((c.typeMap.keywords base).value? "type").getD .null) r
          (putEnumeration r (c.noteOrigin base (baseSchema (c.typeMap.keywords base)))) := by
  unfold restrictionSchema?
  cases nonempty? r.base? with
  | none => simp
  | some base =>
      simp only [Option.ite_none_right_eq_some, Option.some.injEq, exists_eq_left']
      constructor
      · rintro ⟨hprimitive, rfl⟩
        exact ⟨hprimitive, rfl⟩
      · rintro ⟨hprimitive, rfl⟩
        exact ⟨hprimitive, rfl⟩

theorem value?_putEnumeration (r : Restriction) (schema : JsonSchema) {keyword : String}
    (h : keyword ≠ "enum") : (putEnumeration r schema).value? keyword = schema.value? keyword := by
  unfold putEnumeration
  split
  · rfl
  · rw [value?_put, if_neg (Ne.symm h)]

/-- A restriction leads nowhere. -/
theorem not_offers_restrictionSchema? {definitions : Fields JsonSchema} {name : String}
    {opened : List String} {property schema : JsonSchema} {r : Restriction}
    (h : c.restrictionSchema? r = some schema) :
    ¬ Offers c.options.dialect definitions schema opened name property := by
  obtain ⟨base, -, -, rfl⟩ := restrictionSchema?_eq_some_iff.1 h
  -- Three of the keywords that lead on are not set at all; `allOf` may hold patterns.
  have hnone : ∀ keyword ∈ ["properties", "items", "$ref"],
      (putFacets (((c.typeMap.keywords base).value? "type").getD .null) r
        (putEnumeration r (c.noteOrigin base
          (baseSchema (c.typeMap.keywords base))))).value? keyword = none := by
    intro keyword hkeyword
    simp only [List.mem_cons, List.not_mem_nil, or_false] at hkeyword
    rcases hkeyword with rfl | rfl | rfl <;>
      rw [value?_putFacets (by decide), value?_putEnumeration _ _ (by decide),
        value?_noteOrigin _ _ (by decide), value?_baseSchema_eq_none _ (by decide)]
  have hbranches : (putEnumeration r (c.noteOrigin base
      (baseSchema (c.typeMap.keywords base)))).branches = [] := by
    have hall := branches_baseSchema (c.typeMap.keywords base)
    unfold branches at hall ⊢
    rw [value?_putEnumeration _ _ (by decide), value?_noteOrigin _ _ (by decide)]
    exact hall
  rw [offers_iff]
  rintro (⟨-, hproperty⟩ | ⟨items, hitems, -⟩ | ⟨branch, hbranch, hoffers⟩ |
    ⟨target, definition, rest, -, href, -⟩)
  · simp [properties, hnone "properties" (by simp), Fields.value?] at hproperty
  · simp [items?, hnone "items" (by simp)] at hitems
  · exact not_offers_branch_putFacets hbranches hbranch hoffers
  · simp [reference?, hnone "$ref" (by simp)] at href

theorem not_isArray_restrictionSchema? (hmap : c.typeMap = TypeMap.builtin) {r : Restriction}
    {schema : JsonSchema} (h : c.restrictionSchema? r = some schema) : ¬ schema.IsArray := by
  obtain ⟨base, -, -, rfl⟩ := restrictionSchema?_eq_some_iff.1 h
  have hne := TypeMap.builtin_type_ne_array base
  rw [← hmap] at hne
  rw [IsArray, value?_putFacets (by decide), value?_putEnumeration _ _ (by decide),
    value?_noteOrigin _ _ (by decide), value?_baseSchema_type]
  intro htype
  simp only [Keyword.text, Option.some.injEq, Keyword.data.injEq] at htype
  exact hne htype

/-! ## Simple types -/

/-- **A simple type leads where the type of its items does**; only lists lead anywhere. -/
theorem offers_simpleTypeSchema?_iff {definitions : Fields JsonSchema} {name : String}
    {opened : List String} {property : JsonSchema} {type : SimpleType} {schema : JsonSchema}
    (h : c.simpleTypeSchema? type = some schema) :
    Offers c.options.dialect definitions schema opened name property ↔
      ∃ itemName, type.itemName? = some itemName ∧
        Offers c.options.dialect definitions (c.typeSchema itemName) opened name property := by
  induction type using SimpleType.itemsInduction generalizing schema with
  | step type ih =>
      cases hlist : type.list? with
      | none =>
          rw [c.simpleTypeSchema?_of_no_list hlist] at h
          rw [SimpleType.itemName?_of_no_list hlist]
          simp only [reduceCtorEq, false_and, exists_false, iff_false]
          split at h
          · exact not_offers_restrictionSchema? h
          · unfold unionSchema? at h
            split at h
            · cases h
            · cases h
              exact not_offers fun keyword hkeyword => by
                simp only [List.mem_cons, List.not_mem_nil, or_false] at hkeyword
                rcases hkeyword with rfl | rfl | rfl | rfl <;> rfl
          · cases h
      | some list =>
          rw [c.simpleTypeSchema?_of_list hlist, listSchema?_eq] at h
          rw [SimpleType.itemName?_of_list hlist, ListType.itemName?_eq]
          obtain ⟨items, hitems, rfl⟩ := Option.map_eq_some_iff.1 h
          rw [offers_array]
          cases hname : nonempty? list.itemType? with
          | some typeName =>
              simp only [hname, Option.some.injEq] at hitems
              rw [← hitems]
              simp
          | none =>
              cases hinline : list.simpleType? with
              | none => simp [hname, hinline] at hitems
              | some inner =>
                  -- A list of lists leads on like the inner list.
                  simp only [hname, hinline] at hitems
                  exact ih list inner hlist hinline hitems

/-- Of the simple types only lists are arrays. -/
theorem isArray_simpleTypeSchema?_iff (hmap : c.typeMap = TypeMap.builtin) {type : SimpleType}
    {schema : JsonSchema} (h : c.simpleTypeSchema? type = some schema) :
    schema.IsArray ↔ type.list?.isSome := by
  cases hlist : type.list? with
  | none =>
      rw [c.simpleTypeSchema?_of_no_list hlist] at h
      simp only [Option.isSome_none, Bool.false_eq_true, iff_false]
      split at h
      · exact not_isArray_restrictionSchema? hmap h
      · unfold unionSchema? at h
        split at h
        · cases h
        · cases h
          simp [IsArray, value?, anyOf, keywords, Fields.value?]
      · cases h
  | some list =>
      rw [c.simpleTypeSchema?_of_list hlist, listSchema?_eq] at h
      obtain ⟨items, -, rfl⟩ := Option.map_eq_some_iff.1 h
      simp [IsArray, value?, array, keywords, Fields.value?]

/-- A list whose items have a named type has a schema. -/
theorem isSome_simpleTypeSchema?_of_itemName? {type : SimpleType} {itemName : String}
    (h : type.itemName? = some itemName) : (c.simpleTypeSchema? type).isSome := by
  induction type using SimpleType.itemsInduction with
  | step type ih =>
      cases hlist : type.list? with
      | none =>
          rw [SimpleType.itemName?_of_no_list hlist] at h
          cases h
      | some list =>
          rw [SimpleType.itemName?_of_list hlist, ListType.itemName?_eq] at h
          rw [c.simpleTypeSchema?_of_list hlist, listSchema?_eq, Option.isSome_map]
          cases hname : nonempty? list.itemType? with
          | some typeName => rfl
          | none =>
              cases hinline : list.simpleType? with
              | none => simp [hname, hinline] at h
              | some inner =>
                  simp only [hname, hinline] at h ⊢
                  exact ih list inner hlist hinline h

end Conversion

end SchemaBridge
