import SchemaBridge.Proofs.JsonSchema.Leaves
import SchemaBridge.Proofs.JsonSchema.OriginTypes
import SchemaBridge.Proofs.Scalar.Agreement

/-!
# Do the keywords of a restriction fit its type?

The schema of a restriction overlays three things: the keywords of its base, the enumerated texts,
and the numbers of its facets. A validator expects them to agree with the `type` they stand beside
(`JsonSchema.KeywordsFit`).

Bounds and patterns always do: each kind is written for its own types only, and a facet without a
finite number is left out. Enumerated values are kept as texts, so they fit string types and no
other. Lengths stand beside string types only, but any number is taken for them, negative ones and
fractions included. So the keywords fit exactly when nothing is enumerated unless strings are
restricted, and the lengths that are written for a string are counts
(`Xsd.Document.restriction_keywords_fit_iff`). A restriction of `xs:int` to two values is one whose
keywords do not fit (`Xsd.Document.dieFaces_keywords_do_not_fit`).
-/

set_option autoImplicit false

namespace SchemaBridge

open Xsd JsonSchema

/-! ## Values and their types -/

/-- A finite double without a fraction: a whole number of ones, each of which is `2 ^ 1074` units. -/
def Binary64.isIntegral (x : Binary64) : Bool :=
  x.isFinite && Binary64.units x.code % Nat.pow 2 1074 = 0

/-- An integer that is not negative, in either form of numbers. A negative zero is zero. -/
def Number.IsCount : Number → Prop
  | .whole i => 0 ≤ i
  | .real x => x.isIntegral = true ∧ (x.negative = false ∨ x.code = 0)

/-- The value is of the JSON type with a name. Every integer is a number too, and a double without a
fraction is an integer; infinities have no type. -/
def Json.HasType : Json → String → Prop
  | .null, name => name = "null"
  | .bool _, name => name = "boolean"
  | .int _, name => name = "integer" ∨ name = "number"
  | .double x, name => x.isFinite = true ∧ (name = "number" ∨ name = "integer" ∧ x.isIntegral = true)
  | .str _, name => name = "string"
  | .arr _, name => name = "array"
  | .obj _, name => name = "object"

namespace JsonSchema

variable {schema : JsonSchema}

/-- The schema as JSON says that values are of the type with this name. -/
def NamesType (schema : JsonSchema) (name : String) : Prop :=
  schema.fields.value? "type" = some (.str name)

/-- Every enumerated value is of the type that the schema names. -/
def EnumerationFits (schema : JsonSchema) : Prop :=
  ∀ value, schema.fields.value? "enum" = some value →
    ∃ members name, value = .arr members ∧ schema.NamesType name ∧
      ∀ member ∈ members, member.HasType name

/-- Lengths stand beside the type of strings, and are counts. -/
def LengthsFit (schema : JsonSchema) : Prop :=
  ∀ keyword ∈ Conversion.lengthKeywords, ∀ value, schema.fields.value? keyword = some value →
    schema.NamesType "string" ∧ ∃ number : Number, number.IsCount ∧ value = number.toJson

/-- Bounds stand beside a type of numbers, and are finite numbers. -/
def BoundsFit (schema : JsonSchema) : Prop :=
  ∀ keyword ∈ Conversion.boundKeywords, ∀ value, schema.fields.value? keyword = some value →
    (schema.NamesType "number" ∨ schema.NamesType "integer") ∧
      ∃ number : Number, number.isFinite = true ∧ value = number.toJson

/-- A pattern, or several, stands beside the type of strings. -/
def PatternsFit (schema : JsonSchema) : Prop :=
  ∀ keyword ∈ ["pattern", "allOf"], (schema.fields.value? keyword).isSome →
    schema.NamesType "string"

/-- The keywords of a restriction fit the type that they stand beside. -/
structure KeywordsFit (schema : JsonSchema) : Prop where
  enumeration : schema.EnumerationFits
  lengths : schema.LengthsFit
  bounds : schema.BoundsFit
  patterns : schema.PatternsFit

theorem value?_fields (schema : JsonSchema) (keyword : String) :
    schema.fields.value? keyword = (schema.value? keyword).map keywordToJson := by
  rw [fields, keywordsToJson_eq]
  exact Fields.value?_map keywordToJson schema.keywords keyword

theorem namesType_iff {typeName : String} (h : schema.value? "type" = some (.text typeName))
    {name : String} : schema.NamesType name ↔ name = typeName := by
  rw [NamesType, value?_fields, h, Option.map_some, Option.some.injEq]
  exact ⟨fun heq => (Json.str.inj heq).symm, fun heq => heq ▸ rfl⟩

end JsonSchema

theorem Number.toJson_injective {first second : Number} (h : first.toJson = second.toJson) :
    first = second := by
  cases first with
  | whole i =>
      cases second with
      | whole j => rw [Json.int.inj h]
      | real y => cases h
  | real x =>
      cases second with
      | whole j => cases h
      | real y => rw [Json.double.inj h]

/-! ## The bases of restrictions -/

namespace Xsd

namespace Builtin

theorem qualifiedName_injective {b c : Builtin} (h : b.qualifiedName = c.qualifiedName) : b = c := by
  apply localName_injective
  have hchars := congrArg String.toList h
  rw [qualifiedName, qualifiedName, String.toList_append, String.toList_append] at hchars
  exact String.toList_inj.1 (List.append_cancel_left hchars)

theorem qualifiedName_ne_empty (b : Builtin) : b.qualifiedName ≠ "" := by
  intro h
  have hchars := congrArg String.toList h
  rw [qualifiedName, String.toList_append] at hchars
  cases hchars

/-- The built-in types restrict to four JSON types. -/
theorem exists_type (b : Builtin) :
    ∃ name ∈ ["boolean", "number", "integer", "string"],
      b.mapping.value? "type" = some (.str name) := by
  cases b <;>
    simp [mapping, ofType, ofFormat, boundedAtZero, Fields.value?]

/-- Beside its type and a format a built-in type has at most a bound, at zero and of integers. -/
theorem eq_zero_of_value?_mapping (b : Builtin) {keyword : String} {value : Json}
    (htype : keyword ≠ "type") (hformat : keyword ≠ "format")
    (h : b.mapping.value? keyword = some value) :
    keyword ∈ Conversion.boundKeywords ∧ value = .int 0 ∧
      b.mapping.value? "type" = some (.str "integer") := by
  have htype' := Ne.symm htype
  have hformat' := Ne.symm hformat
  cases b <;>
    simp_all [mapping, ofType, ofFormat, boundedAtZero, Fields.value?, Conversion.boundKeywords]

end Builtin

/-- The table finds the built-in types, and nothing else. -/
theorem TypeMap.value?_builtin_eq_some_iff {typeName : String} {keywords : Fields Json} :
    TypeMap.builtin.value? typeName = some keywords ↔
      ∃ b : Builtin, typeName = b.qualifiedName ∧ keywords = b.mapping := by
  have hnodup : (Fields.names TypeMap.builtin).Nodup := by
    have hall : Builtin.all.Nodup := by decide
    have hmap := hall.map fun _ _ => Builtin.qualifiedName_injective
    rwa [Fields.names, TypeMap.builtin, List.map_map]
  rw [Fields.value?_eq_some_iff hnodup, TypeMap.builtin, List.mem_map]
  constructor
  · rintro ⟨b, -, heq⟩
    cases heq
    exact ⟨b, rfl, rfl⟩
  · rintro ⟨b, rfl, rfl⟩
    exact ⟨b, b.mem_all, rfl⟩

namespace Restriction

/-- The base is a built-in type of strings. -/
def RestrictsStrings (r : Restriction) : Prop :=
  ∃ b : Builtin, r.base? = some b.qualifiedName ∧ b.mapping.value? "type" = some (.str "string")

/-- The least length that is written: the exact one if it has a number, else the lower bound. -/
def leastLength? (r : Restriction) : Option Number :=
  (r.length?.bind facetNumber?).or (r.minLength?.bind facetNumber?)

/-- The greatest length that is written. -/
def greatestLength? (r : Restriction) : Option Number :=
  (r.length?.bind facetNumber?).or (r.maxLength?.bind facetNumber?)

/-- The lengths that are written are counts. -/
def LengthsAreCounts (r : Restriction) : Prop :=
  ∀ number, r.leastLength? = some number ∨ r.greatestLength? = some number → number.IsCount

theorem restrictsStrings_iff {r : Restriction} {b : Builtin} {typeName : String}
    (hbase : r.base? = some b.qualifiedName) (htype : b.mapping.value? "type" = some (.str typeName)) :
    r.RestrictsStrings ↔ typeName = "string" := by
  constructor
  · rintro ⟨other, hother, hstring⟩
    have heq := Builtin.qualifiedName_injective (Option.some.inj (hother.symm.trans hbase))
    rw [heq, htype, Option.some.injEq] at hstring
    exact Json.str.inj hstring
  · rintro rfl
    exact ⟨b, hbase, htype⟩

end Restriction

end Xsd

namespace Conversion

variable {c : Conversion} {r : Restriction} {schema : JsonSchema}

/-! ## What the facets set -/

/-- Looking a keyword up after a facet. -/
theorem value?_putFacet_eq (keyword other : String) (facet? : Option String)
    (schema : JsonSchema) :
    (putFacet keyword facet? schema).value? other =
      if keyword = other then
        ((facet?.bind facetNumber?).map fun number => .data number.toJson).or (schema.value? other)
      else schema.value? other := by
  by_cases h : keyword = other
  · rw [if_pos h, putFacet]
    cases facet?.bind facetNumber? with
    | none => rfl
    | some number => rw [value?_put, if_pos h, Option.map_some, Option.some_or]
  · rw [if_neg h, value?_putFacet h]

theorem value?_minLength_putLengths (r : Restriction) (schema : JsonSchema) :
    (putLengths r schema).value? "minLength" =
      (r.leastLength?.map fun number => .data number.toJson).or (schema.value? "minLength") := by
  simp [putLengths, value?_putFacet_eq, Restriction.leastLength?, Option.map_or, Option.or_assoc]

theorem value?_maxLength_putLengths (r : Restriction) (schema : JsonSchema) :
    (putLengths r schema).value? "maxLength" =
      (r.greatestLength?.map fun number => .data number.toJson).or (schema.value? "maxLength") := by
  simp [putLengths, value?_putFacet_eq, Restriction.greatestLength?, Option.map_or,
    Option.or_assoc]

/-- What stands under a bound is finite. -/
def IsFiniteBound (keyword : Keyword) : Prop :=
  ∃ number : Number, number.isFinite = true ∧ keyword = .data number.toJson

/-- A facet sets a finite number or nothing. -/
theorem value?_putFacet_bound {keyword other : String} {facet? : Option String} {value : Keyword}
    (h : (putFacet keyword facet? schema).value? other = some value) :
    schema.value? other = some value ∨ IsFiniteBound value := by
  rw [value?_putFacet_eq] at h
  split at h
  · rcases Option.or_eq_some_iff.1 h with hset | ⟨-, hold⟩
    · obtain ⟨number, hnumber, rfl⟩ := Option.map_eq_some_iff.1 hset
      obtain ⟨text, -, htext⟩ := Option.bind_eq_some_iff.1 hnumber
      exact Or.inr ⟨number, isFinite_of_facetNumber? htext, rfl⟩
    · exact Or.inl hold
  · exact Or.inl h

/-- **Bounds are finite numbers**, set by a facet or by the base. -/
theorem value?_putBounds_bound {keyword : String} {value : Keyword}
    (h : (putBounds r schema).value? keyword = some value) :
    schema.value? keyword = some value ∨ IsFiniteBound value := by
  -- The facets are undone from the last one to the first.
  rcases value?_putFacet_bound h with h | hset
  · rcases value?_putFacet_bound h with h | hset
    · rcases value?_putFacet_bound h with h | hset
      · exact value?_putFacet_bound h
      · exact Or.inr hset
    · exact Or.inr hset
  · exact Or.inr hset

/-- Facets set bounds beside the types of numbers, and leave them as they are beside all others. -/
theorem value?_putFacets_bound {type : Json} {keyword : String} {value : Keyword}
    (hkeyword : keyword ∈ boundKeywords)
    (h : (putFacets type r schema).value? keyword = some value) :
    schema.value? keyword = some value ∨
      (type = .str "number" ∨ type = .str "integer") ∧ IsFiniteBound value := by
  have hother : keyword ∉ lengthKeywords ∧ keyword ≠ "pattern" ∧ keyword ≠ "allOf" := by
    have hdisjoint : ∀ bound ∈ boundKeywords,
        bound ∉ lengthKeywords ∧ bound ≠ "pattern" ∧ bound ≠ "allOf" := by decide
    exact hdisjoint keyword hkeyword
  obtain ⟨hlength, hpattern, hallOf⟩ := hother
  unfold putFacets at h
  split at h
  · rw [value?_putPatterns hpattern hallOf, value?_putLengths hlength] at h
    exact Or.inl h
  · exact (value?_putBounds_bound h).imp_right fun hset => ⟨Or.inl rfl, hset⟩
  · exact (value?_putBounds_bound h).imp_right fun hset => ⟨Or.inr rfl, hset⟩
  · exact Or.inl h

/-! ## The schema of a restriction -/

/-- The schema of a restriction before its facets are added. -/
def enumeratedSchema (c : Conversion) (b : Builtin) (r : Restriction) : JsonSchema :=
  putEnumeration r (c.noteOrigin b.qualifiedName (baseSchema b.mapping))

/-- **The restrictions of built-in types have schemas**, and no others. -/
theorem restrictionSchema?_iff (hmap : c.typeMap = TypeMap.builtin) :
    c.restrictionSchema? r = some schema ↔
      ∃ (b : Builtin) (typeName : String), r.base? = some b.qualifiedName ∧
        b.mapping.value? "type" = some (.str typeName) ∧
        schema = putFacets (.str typeName) r (c.enumeratedSchema b r) := by
  rw [restrictionSchema?_eq_some_iff, hmap]
  constructor
  · rintro ⟨base, hbase, hprimitive, rfl⟩
    obtain ⟨keywords, hkeywords⟩ := Option.isSome_iff_exists.1 hprimitive
    obtain ⟨b, rfl, rfl⟩ := TypeMap.value?_builtin_eq_some_iff.1 hkeywords
    obtain ⟨typeName, -, htype⟩ := b.exists_type
    refine ⟨b, typeName, (Option.filter_eq_some_iff.1 hbase).1, htype, ?_⟩
    rw [enumeratedSchema, TypeMap.keywords, hkeywords, Option.getD_some, htype, Option.getD_some]
  · rintro ⟨b, typeName, hbase, htype, rfl⟩
    have hkeywords : TypeMap.builtin.value? b.qualifiedName = some b.mapping :=
      TypeMap.value?_builtin_eq_some_iff.2 ⟨b, rfl, rfl⟩
    refine ⟨b.qualifiedName, ?_, by rw [TypeMap.isPrimitive, hkeywords]; rfl, ?_⟩
    · rw [hbase, nonempty?]
      simp [b.qualifiedName_ne_empty]
    · rw [enumeratedSchema, TypeMap.keywords, hkeywords, Option.getD_some, htype, Option.getD_some]

section Facets

variable {b : Builtin} {typeName : String} (htype : b.mapping.value? "type" = some (.str typeName))

/-- Before the facets there is at most a bound at zero. -/
theorem eq_zero_of_value?_enumeratedSchema {keyword : String}
    (hkeyword : keyword ∈ facetKeywords) {value : Keyword}
    (h : (c.enumeratedSchema b r).value? keyword = some value) :
    keyword ∈ boundKeywords ∧ value = .data (.int 0) ∧
      b.mapping.value? "type" = some (.str "integer") := by
  have hne : ∀ other, other ∉ facetKeywords → keyword ≠ other := by
    rintro other hother rfl
    exact hother hkeyword
  rw [enumeratedSchema, value?_putEnumeration _ _ (hne _ (by decide)),
    value?_noteOrigin _ _ (hne _ (by decide))] at h
  obtain ⟨data, hdata, rfl⟩ := exists_of_value?_baseSchema (hne _ (by decide)) h
  obtain ⟨hbound, rfl, hinteger⟩ :=
    b.eq_zero_of_value?_mapping (hne _ (by decide)) (hne _ (by decide)) hdata
  exact ⟨hbound, rfl, hinteger⟩

theorem value?_enumeratedSchema_eq_none {keyword : String}
    (hkeyword : keyword ∈ facetKeywords) (hbound : keyword ∉ boundKeywords) :
    (c.enumeratedSchema b r).value? keyword = none := by
  cases h : (c.enumeratedSchema b r).value? keyword with
  | none => rfl
  | some value => exact absurd (eq_zero_of_value?_enumeratedSchema hkeyword h).1 hbound

include htype in
theorem value?_type_putFacets :
    (putFacets (.str typeName) r (c.enumeratedSchema b r)).value? "type" =
      some (.text typeName) := by
  rw [value?_putFacets (by decide), enumeratedSchema, value?_putEnumeration _ _ (by decide),
    value?_noteOrigin _ _ (by decide), value?_baseSchema_type, htype]
  rfl

theorem value?_enum_putFacets :
    (putFacets (.str typeName) r (c.enumeratedSchema b r)).value? "enum" =
      if r.enumeration.isEmpty then none else some (.names r.enumeration) := by
  rw [value?_putFacets (by decide), enumeratedSchema, putEnumeration]
  split
  · -- No built-in type enumerates values.
    rw [value?_noteOrigin _ _ (by decide)]
    cases h : (baseSchema b.mapping).value? "enum" with
    | none => rfl
    | some value =>
        obtain ⟨data, hdata, -⟩ := exists_of_value?_baseSchema (by decide) h
        have hbound := (b.eq_zero_of_value?_mapping (by decide) (by decide) hdata).1
        exact absurd hbound (by decide)
  · rw [value?_put, if_pos rfl]

/-- Lengths and patterns are written for strings only. -/
theorem value?_putFacets_eq_none (hstring : typeName ≠ "string") {keyword : String}
    (hkeyword : keyword ∈ facetKeywords) (hbound : keyword ∉ boundKeywords) :
    (putFacets (.str typeName) r (c.enumeratedSchema b r)).value? keyword = none := by
  have hnone : (c.enumeratedSchema b r).value? keyword = none :=
    value?_enumeratedSchema_eq_none hkeyword hbound
  unfold putFacets
  split
  · next heq => exact absurd (Json.str.inj heq) hstring
  · rw [value?_putBounds hbound, hnone]
  · rw [value?_putBounds hbound, hnone]
  · exact hnone

include htype in
theorem namesType_putFacets_iff {name : String} :
    (putFacets (.str typeName) r (c.enumeratedSchema b r)).NamesType name ↔ name = typeName :=
  namesType_iff (value?_type_putFacets htype)

include htype in
/-- **Enumerated texts fit the type of strings only.** -/
theorem enumerationFits_putFacets_iff :
    (putFacets (.str typeName) r (c.enumeratedSchema b r)).EnumerationFits ↔
      r.enumeration = [] ∨ typeName = "string" := by
  simp only [EnumerationFits, namesType_putFacets_iff htype, value?_fields, value?_enum_putFacets]
  cases henum : r.enumeration with
  | nil => simp
  | cons first rest =>
      simp only [List.isEmpty_cons, Bool.false_eq_true, if_false, Option.map_some,
        Option.some.injEq, reduceCtorEq, false_or]
      constructor
      · intro h
        obtain ⟨members, name, hmembers, rfl, hall⟩ := h _ rfl
        cases hmembers
        exact hall (.str first) (List.mem_map_of_mem (List.mem_cons_self ..))
      · rintro rfl value rfl
        refine ⟨(first :: rest).map .str, "string", rfl, rfl, ?_⟩
        intro member hmember
        obtain ⟨text, -, rfl⟩ := List.mem_map.1 hmember
        rfl

/-- What stands under a keyword that is set to a number, if there is one, is a count when the number
is. -/
theorem countsUnder_iff {keyword : String} {number? : Option Number}
    (h : schema.value? keyword = number?.map fun number => .data number.toJson) :
    (∀ value, schema.fields.value? keyword = some value →
        ∃ number : Number, number.IsCount ∧ value = number.toJson) ↔
      ∀ number, number? = some number → number.IsCount := by
  rw [value?_fields, h]
  constructor
  · rintro hvalues number rfl
    obtain ⟨other, hcount, heq⟩ := hvalues number.toJson rfl
    rwa [Number.toJson_injective heq]
  · intro hcounts value hvalue
    cases hnumber : number? with
    | none =>
        rw [hnumber] at hvalue
        cases hvalue
    | some number =>
        rw [hnumber] at hvalue
        cases hvalue
        exact ⟨number, hcounts number hnumber, rfl⟩

include htype in
/-- **Lengths fit when those of a string are counts.** -/
theorem lengthsFit_putFacets_iff :
    (putFacets (.str typeName) r (c.enumeratedSchema b r)).LengthsFit ↔
      (typeName = "string" → r.LengthsAreCounts) := by
  by_cases hstring : typeName = "string"
  · subst hstring
    have hleast : (putFacets (.str "string") r (c.enumeratedSchema b r)).value? "minLength" =
        r.leastLength?.map fun number => .data number.toJson := by
      rw [putFacets, value?_putPatterns (by decide) (by decide), value?_minLength_putLengths,
        value?_enumeratedSchema_eq_none (by decide) (by decide), Option.or_none]
    have hgreatest : (putFacets (.str "string") r (c.enumeratedSchema b r)).value? "maxLength" =
        r.greatestLength?.map fun number => .data number.toJson := by
      rw [putFacets, value?_putPatterns (by decide) (by decide), value?_maxLength_putLengths,
        value?_enumeratedSchema_eq_none (by decide) (by decide), Option.or_none]
    constructor
    · intro h _ number hnumber
      have hmin := (countsUnder_iff hleast).1 fun value hvalue =>
        (h "minLength" (List.mem_cons_self ..) value hvalue).2
      have hmax := (countsUnder_iff hgreatest).1 fun value hvalue =>
        (h "maxLength" (List.mem_cons_of_mem _ (List.mem_cons_self ..)) value hvalue).2
      exact hnumber.elim (hmin number) (hmax number)
    · intro hcounts keyword hkeyword value hvalue
      refine ⟨(namesType_putFacets_iff htype).2 rfl, ?_⟩
      rcases List.mem_pair.1 hkeyword with rfl | rfl
      · exact (countsUnder_iff hleast).2 (fun number h => hcounts rfl number (Or.inl h)) value hvalue
      · exact (countsUnder_iff hgreatest).2 (fun number h => hcounts rfl number (Or.inr h)) value
          hvalue
  · refine iff_of_true ?_ fun h => absurd h hstring
    intro keyword hkeyword value hvalue
    have hfacet : keyword ∈ facetKeywords := List.mem_append_left _ (List.mem_append_left _ hkeyword)
    have hbound : keyword ∉ boundKeywords := by
      have hdisjoint : ∀ length ∈ lengthKeywords, length ∉ boundKeywords := by decide
      exact hdisjoint keyword hkeyword
    rw [value?_fields, value?_putFacets_eq_none hstring hfacet hbound] at hvalue
    cases hvalue

include htype in
/-- Bounds always fit. -/
theorem boundsFit_putFacets :
    (putFacets (.str typeName) r (c.enumeratedSchema b r)).BoundsFit := by
  intro keyword hkeyword value hvalue
  rw [value?_fields] at hvalue
  obtain ⟨entry, hentry, rfl⟩ := Option.map_eq_some_iff.1 hvalue
  have hfits : (typeName = "number" ∨ typeName = "integer") ∧ IsFiniteBound entry := by
    rcases value?_putFacets_bound hkeyword hentry with hold | ⟨hnumbers, hfinite⟩
    · -- A bound of the base is zero, and its type is that of integers.
      have hfacet : keyword ∈ facetKeywords :=
        List.mem_append_left _ (List.mem_append_right _ hkeyword)
      obtain ⟨-, rfl, hinteger⟩ := eq_zero_of_value?_enumeratedSchema hfacet hold
      rw [htype, Option.some.injEq, Json.str.injEq] at hinteger
      exact ⟨Or.inr hinteger, .whole 0, rfl, rfl⟩
    · exact ⟨hnumbers.imp Json.str.inj Json.str.inj, hfinite⟩
  obtain ⟨hnumbers, number, hfinite, rfl⟩ := hfits
  refine ⟨?_, number, hfinite, rfl⟩
  rw [namesType_putFacets_iff htype, namesType_putFacets_iff htype]
  exact hnumbers.imp Eq.symm Eq.symm

include htype in
/-- Patterns always fit. -/
theorem patternsFit_putFacets :
    (putFacets (.str typeName) r (c.enumeratedSchema b r)).PatternsFit := by
  intro keyword hkeyword hsome
  have hfacet : keyword ∈ facetKeywords := List.mem_append_right _ hkeyword
  have hbound : keyword ∉ boundKeywords := by
    have hdisjoint : ∀ other ∈ ["pattern", "allOf"], other ∉ boundKeywords := by decide
    exact hdisjoint keyword hkeyword
  rw [namesType_putFacets_iff htype]
  by_contra hstring
  rw [value?_fields, value?_putFacets_eq_none (Ne.symm hstring) hfacet hbound] at hsome
  cases hsome

end Facets

end Conversion

/-! ## Restrictions of a document -/

namespace Xsd.Document

variable {options : Options}

/-- **When the keywords of a restriction fit its type.** Without type mappings of the caller, the
restrictions of built-in types, and no others, have schemas. In each of them bounds and patterns fit;
enumerated values fit when there are none or strings are restricted; lengths fit unless a string has
a length that is no count; and so the keywords fit exactly when both are so. -/
theorem restriction_keywords_fit_iff (hmappings : options.typeMappings = []) (document : Document)
    (r : Restriction) :
    ((∃ schema, (Conversion.ofDocument options document).restrictionSchema? r = some schema) ↔
        ∃ b : Builtin, r.base? = some b.qualifiedName) ∧
      ∀ schema, (Conversion.ofDocument options document).restrictionSchema? r = some schema →
        schema.BoundsFit ∧ schema.PatternsFit ∧
          (schema.EnumerationFits ↔ r.enumeration = [] ∨ r.RestrictsStrings) ∧
          (schema.LengthsFit ↔ (r.RestrictsStrings → r.LengthsAreCounts)) ∧
          (schema.KeywordsFit ↔ (r.enumeration = [] ∨ r.RestrictsStrings) ∧
            (r.RestrictsStrings → r.LengthsAreCounts)) := by
  have hmap : (Conversion.ofDocument options document).typeMap = TypeMap.builtin :=
    typeMap_ofDocument hmappings
  constructor
  · constructor
    · rintro ⟨schema, hschema⟩
      obtain ⟨b, -, hbase, -⟩ := (Conversion.restrictionSchema?_iff hmap).1 hschema
      exact ⟨b, hbase⟩
    · rintro ⟨b, hbase⟩
      obtain ⟨typeName, -, htype⟩ := b.exists_type
      exact ⟨_, (Conversion.restrictionSchema?_iff hmap).2 ⟨b, typeName, hbase, htype, rfl⟩⟩
  · intro schema hschema
    obtain ⟨b, typeName, hbase, htype, rfl⟩ := (Conversion.restrictionSchema?_iff hmap).1 hschema
    rw [Restriction.restrictsStrings_iff hbase htype,
      ← Conversion.enumerationFits_putFacets_iff htype,
      ← Conversion.lengthsFit_putFacets_iff htype]
    have hbounds := Conversion.boundsFit_putFacets
      (c := Conversion.ofDocument options document) (r := r) htype
    have hpatterns := Conversion.patternsFit_putFacets
      (c := Conversion.ofDocument options document) (r := r) htype
    refine ⟨hbounds, hpatterns, Iff.rfl, Iff.rfl, ?_⟩
    constructor
    · intro hfit
      exact ⟨hfit.enumeration, hfit.lengths⟩
    · rintro ⟨henum, hlengths⟩
      exact ⟨henum, hlengths, hbounds, hpatterns⟩

/-- A restriction of strings to some sizes, at least one character long. -/
def sizes : Restriction where
  base? := some "xs:string"
  enumeration := ["S", "XL"]
  minLength? := some "1"

/-- Strings are enumerated as strings, and a length of one is a count. -/
theorem sizes_keywords_fit :
    ∃ schema, (Conversion.ofDocument {} {}).restrictionSchema? sizes = some schema ∧
      schema.KeywordsFit := by
  have hmappings : ({} : Options).typeMappings = [] := rfl
  obtain ⟨hreturns, hfits⟩ := restriction_keywords_fit_iff hmappings {} sizes
  have hbase : sizes.base? = some Builtin.string.qualifiedName := rfl
  obtain ⟨schema, hschema⟩ := hreturns.2 ⟨.string, hbase⟩
  obtain ⟨-, -, -, -, hiff⟩ := hfits schema hschema
  refine ⟨schema, hschema, hiff.2 ⟨Or.inr ⟨.string, hbase, rfl⟩, ?_⟩⟩
  rintro - number (hleast | hgreatest)
  · have hone : sizes.leastLength? = some (.whole 1) := by decide
    cases hone.symm.trans hleast
    exact Int.one_nonneg
  · have hnone : sizes.greatestLength? = none := rfl
    cases hnone.symm.trans hgreatest

/-- A restriction of integers to two values. -/
def dieFaces : Restriction where
  base? := some "xs:int"
  enumeration := ["1", "2"]

/-- The schema asks for an integer and lists strings, so no value satisfies it. -/
theorem dieFaces_keywords_do_not_fit :
    ∃ schema, (Conversion.ofDocument {} {}).restrictionSchema? dieFaces = some schema ∧
      schema.NamesType "integer" ∧
      schema.fields.value? "enum" = some (.arr [.str "1", .str "2"]) ∧ ¬ schema.KeywordsFit := by
  have hmap : (Conversion.ofDocument {} {}).typeMap = TypeMap.builtin := rfl
  have htype : Builtin.int.mapping.value? "type" = some (.str "integer") := rfl
  refine ⟨_, (Conversion.restrictionSchema?_iff hmap).2 ⟨.int, "integer", rfl, htype, rfl⟩,
    (Conversion.namesType_putFacets_iff htype).2 rfl, ?_, ?_⟩
  · rw [value?_fields, Conversion.value?_enum_putFacets]
    rfl
  · intro hfit
    rcases (Conversion.enumerationFits_putFacets_iff htype).1 hfit.enumeration with hnone | hstring
    · cases hnone
    · exact absurd hstring (by decide)

end Xsd.Document

end SchemaBridge
