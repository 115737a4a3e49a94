import SchemaBridge.Proofs.JsonSchema.Leaves
import SchemaBridge.Proofs.Xsd.TypeNames

/-!
# The nodes of a converted schema

A schema node lies in a schema when it is the schema itself or stands, however deep, under one of
its keywords (`JsonSchema.Contains`). What holds of every node of a converted schema follows from a
few facts about single steps of the conversion: what a type name and a restriction are written as,
what an object, an array and a composition are, and what becomes of a node when the keywords of a
complex type are laid over it (`Conversion.NodeLaw`).

Main result: a property that meets these facts holds of every node of a converted document
(`Conversion.NodeLaw.schemaDocument`).
-/

set_option autoImplicit false

namespace SchemaBridge

open Xsd

/-- The schemas that stand directly under a keyword. -/
def Keyword.children : Keyword → List JsonSchema
  | .data _ | .names _ => []
  | .schema inner => [inner]
  | .schemas list => list
  | .named table => table.map Prod.snd

namespace JsonSchema

/-- The schemas that stand directly under the keywords of a schema. -/
def children (schema : JsonSchema) : List JsonSchema :=
  schema.keywords.flatMap fun entry => entry.2.children

/-- A schema node lies in a schema, at any depth. -/
inductive Contains : JsonSchema → JsonSchema → Prop where
  | self (schema : JsonSchema) : Contains schema schema
  | child {schema inner node : JsonSchema} (h : inner ∈ schema.children)
      (hnode : Contains inner node) : Contains schema node

/-- A property holds of every node of a schema. -/
def Everywhere (P : JsonSchema → Prop) (schema : JsonSchema) : Prop :=
  ∀ node, schema.Contains node → P node

section Everywhere

variable {P : JsonSchema → Prop} {schema extra : JsonSchema}

theorem everywhere_iff :
    schema.Everywhere P ↔ P schema ∧ ∀ inner ∈ schema.children, inner.Everywhere P := by
  constructor
  · intro h
    exact ⟨h schema (.self schema), fun inner hinner node hnode => h node (.child hinner hnode)⟩
  · rintro ⟨hself, hchildren⟩ node hnode
    cases hnode with
    | self => exact hself
    | child hinner hnode => exact hchildren _ hinner node hnode

theorem Everywhere.self (h : schema.Everywhere P) : P schema :=
  h schema (.self schema)

theorem Everywhere.of_mem_children (h : schema.Everywhere P) {inner : JsonSchema}
    (hinner : inner ∈ schema.children) : inner.Everywhere P :=
  (everywhere_iff.1 h).2 inner hinner

theorem mem_children_update {inner : JsonSchema} (h : inner ∈ (schema.update extra).children) :
    inner ∈ schema.children ∨ inner ∈ extra.children := by
  obtain ⟨entry, hentry, hinner⟩ := List.mem_flatMap.1 h
  rcases Fields.mem_of_mem_update hentry with hold | hnew
  · exact Or.inl (List.mem_flatMap.2 ⟨entry, hold, hinner⟩)
  · exact Or.inr (List.mem_flatMap.2 ⟨entry, hnew, hinner⟩)

/-- When the keywords of a schema are laid over another one, only the node at the top is new. -/
theorem Everywhere.update (h : schema.Everywhere P) (hextra : extra.Everywhere P)
    (hself : P (schema.update extra)) : (schema.update extra).Everywhere P := by
  refine everywhere_iff.2 ⟨hself, fun inner hinner => ?_⟩
  rcases mem_children_update hinner with hold | hnew
  · exact h.of_mem_children hold
  · exact hextra.of_mem_children hnew

theorem everywhere_object {table : Fields JsonSchema} {required : List String} :
    (object table required).Everywhere P ↔
      P (object table required) ∧ ∀ entry ∈ table, entry.2.Everywhere P := by
  rw [everywhere_iff]
  simp only [children, object, keywords, Keyword.children, Keyword.text, List.flatMap_cons,
    List.flatMap_nil, List.nil_append, List.append_nil, List.forall_mem_map]

theorem everywhere_array {minItems? : Option Int} {items : JsonSchema} :
    (array minItems? items).Everywhere P ↔
      P (array minItems? items) ∧ items.Everywhere P := by
  rw [everywhere_iff]
  cases minItems? <;> simp [children, array, keywords, Keyword.children, Keyword.text]

theorem everywhere_allOf {schemas : List JsonSchema} :
    (allOf schemas).Everywhere P ↔
      P (allOf schemas) ∧ ∀ schema ∈ schemas, schema.Everywhere P := by
  rw [everywhere_iff]
  simp [children, allOf, keywords, Keyword.children]

theorem everywhere_anyOf {schemas : List JsonSchema} :
    (anyOf schemas).Everywhere P ↔
      P (anyOf schemas) ∧ ∀ schema ∈ schemas, schema.Everywhere P := by
  rw [everywhere_iff]
  simp [children, anyOf, keywords, Keyword.children]

/-- A schema with nothing but data under its keywords is its only node. -/
theorem everywhere_of_keywords (hchildren : ∀ entry ∈ schema.keywords, entry.2.children = [])
    (h : P schema) : schema.Everywhere P := by
  refine everywhere_iff.2 ⟨h, fun inner hinner => ?_⟩
  obtain ⟨entry, hentry, hinner⟩ := List.mem_flatMap.1 hinner
  rw [hchildren entry hentry] at hinner
  cases hinner

theorem everywhere_unconstrained (h : P unconstrained) : unconstrained.Everywhere P :=
  everywhere_of_keywords (fun _ hentry => nomatch hentry) h

end Everywhere

end JsonSchema

namespace Conversion

open JsonSchema

variable {c : Conversion} {schema : Schema}

/-- **Induction on what a conversion writes**: what holds of an element with a name follows from what
holds of its inline complex type, and that from what holds of the members of the type. -/
theorem emissionInduction {element : OpenNames → Element → Prop}
    {complexType : OpenNames → ComplexType → Prop}
    (hunnamed : ∀ names e, nonempty? e.name? = none → element names e)
    (helement : ∀ names e, (∀ type, e.complexType? = some type → complexType names type) →
      element names e)
    (htype : ∀ names type, (∀ inner m, names.enter .complexType type.name? = some inner →
      m ∈ Sequence.optionalMembers c.registry inner (contentShape type).sequence? →
        element m.names m.element) → complexType names type) :
    (∀ names e, element names e) ∧ ∀ names type, complexType names type := by
  have hentered : ∀ names type inner, names.enter .complexType type.name? = some inner →
      (∀ m ∈ Sequence.optionalMembers c.registry inner (contentShape type).sequence?,
        element m.names m.element) → complexType names type := by
    intro names type inner henter h
    apply htype
    intro inner' m henter' hm
    cases henter.symm.trans henter'
    exact h m hm
  have hrefused : ∀ names type, names.enter .complexType type.name? = none →
      complexType names type := by
    intro names type hrefused
    apply htype
    intro inner m henter
    cases hrefused.symm.trans henter
  -- The recursion also goes through sequences, which say nothing of their own.
  have h := singleSchema?.mutual_induct c element complexType
    (fun names sequence? => ∀ m ∈ Sequence.optionalMembers c.registry names sequence?,
      element m.names m.element)
    hunnamed
    (fun names e _ _ h => helement names e h)
    hrefused
    (fun names type inner henter _ _ _ => hentered names type inner henter)
    (fun names type inner henter _ _ _ => hentered names type inner henter)
    (fun names type inner henter _ _ => hentered names type inner henter)
    (fun _ _ h m hm => h ⟨m, hm⟩)
  exact ⟨h.1, h.2.1⟩

/-! ## Keywords of simple types -/

/-- A keyword that stands for a type name. -/
inductive TypeEntry (c : Conversion) (typeName : String) : String × Keyword → Prop where
  | origin : TypeEntry c typeName (originKey, .text typeName)
  /-- A primitive type without a type. -/
  | untyped : TypeEntry c typeName ("type", .data .null)
  /-- A keyword of a primitive type. -/
  | primitive {keyword : String} {value : Json}
      (h : (keyword, value) ∈ c.typeMap.keywords typeName) :
      TypeEntry c typeName (keyword, .data value)
  | reference (h : c.typeMap.isPrimitive typeName = false) :
      TypeEntry c typeName ("$ref", .text (c.options.dialect.reference typeName))

/-- No schema stands under the keywords of a type name. -/
theorem TypeEntry.children_eq_nil {typeName : String} {entry : String × Keyword}
    (h : c.TypeEntry typeName entry) : entry.2.children = [] := by
  cases h <;> rfl

theorem typeEntry_of_getD {typeName : String} {value : Json}
    (h : ((c.typeMap.keywords typeName).value? "type").getD .null = value) :
    c.TypeEntry typeName ("type", .data value) := by
  cases htype : (c.typeMap.keywords typeName).value? "type" with
  | none =>
      rw [htype] at h
      exact h ▸ .untyped
  | some type =>
      rw [htype] at h
      exact .primitive (h ▸ Fields.mem_of_value? htype)

theorem typeEntry_of_mem_bareTypeSchema {typeName : String} {entry : String × Keyword}
    (h : entry ∈ (c.bareTypeSchema typeName).keywords) : c.TypeEntry typeName entry := by
  unfold bareTypeSchema at h
  cases hprimitive : c.typeMap.isPrimitive typeName with
  | true =>
      rw [hprimitive, if_pos rfl] at h
      rcases List.mem_cons.1 h with rfl | h
      · exact typeEntry_of_getD rfl
      · obtain ⟨format, hformat, rfl⟩ := List.mem_map.1 h
        have hvalue := (Option.filter_eq_some_iff.1 (Option.mem_toList.1 hformat)).1
        exact .primitive (Fields.mem_of_value? hvalue)
  | false =>
      rw [hprimitive, if_neg Bool.false_ne_true] at h
      rw [List.mem_singleton.1 h]
      exact .reference hprimitive

theorem mem_keywords_noteOrigin {typeName : String} {s : JsonSchema} {entry : String × Keyword}
    (h : entry ∈ (c.noteOrigin typeName s).keywords) :
    entry ∈ s.keywords ∨ entry = (originKey, .text typeName) := by
  unfold noteOrigin at h
  split at h
  · exact Fields.mem_of_mem_put h
  · exact Or.inl h

theorem typeEntry_of_mem_typeSchema {typeName : String} {entry : String × Keyword}
    (h : entry ∈ (c.typeSchema typeName).keywords) : c.TypeEntry typeName entry := by
  rcases mem_keywords_noteOrigin h with h | rfl
  · exact typeEntry_of_mem_bareTypeSchema h
  · exact .origin

theorem typeEntry_of_mem_namedSchema {typeName : String} {entry : String × Keyword}
    (h : entry ∈ (c.namedSchema typeName).keywords) : c.TypeEntry typeName entry := by
  rcases Fields.mem_of_mem_update h with h | h
  · rcases mem_keywords_noteOrigin h with h | rfl
    · cases h
    · exact .origin
  · exact typeEntry_of_mem_bareTypeSchema h

theorem typeEntry_of_mem_unionMemberSchema {typeName : String} {entry : String × Keyword}
    (h : entry ∈ (c.unionMemberSchema typeName).keywords) : c.TypeEntry typeName entry := by
  unfold unionMemberSchema at h
  cases hprimitive : c.typeMap.isPrimitive typeName with
  | true =>
      rw [hprimitive, if_pos rfl] at h
      obtain ⟨mapped, hmapped, rfl⟩ := List.mem_map.1 h
      exact .primitive (List.mem_filter.1 hmapped).1
  | false =>
      rw [hprimitive, if_neg Bool.false_ne_true] at h
      rw [List.mem_singleton.1 h]
      exact .reference hprimitive

/-- A schema with one pattern. -/
def patternSchema (pattern : String) : JsonSchema :=
  .node [("pattern", .text (normalizePattern pattern))]

/-- A keyword of a restriction of a primitive type. -/
inductive RestrictionEntry (c : Conversion) (base : String) (r : Restriction) :
    String × Keyword → Prop where
  | type : RestrictionEntry c base r
      ("type", .data (((c.typeMap.keywords base).value? "type").getD .null))
  | inherited {keyword : String} {value : Json} (hkeyword : keyword ∈ inheritedKeywords)
      (h : (keyword, value) ∈ c.typeMap.keywords base) :
      RestrictionEntry c base r (keyword, .data value)
  | origin : RestrictionEntry c base r (originKey, .text base)
  | enumeration : RestrictionEntry c base r ("enum", .names r.enumeration)
  | facet {keyword : String} (number : Number) (h : keyword ∈ lengthKeywords ++ boundKeywords) :
      RestrictionEntry c base r (keyword, .data number.toJson)
  | pattern (pattern : String) :
      RestrictionEntry c base r ("pattern", .text (normalizePattern pattern))
  | patterns : RestrictionEntry c base r ("allOf", .schemas (r.patterns.map patternSchema))

/-- The only schemas under the keywords of a restriction are its patterns. -/
theorem RestrictionEntry.mem_children {base : String} {r : Restriction} {entry : String × Keyword}
    (h : c.RestrictionEntry base r entry) {inner : JsonSchema} (hinner : inner ∈ entry.2.children) :
    ∃ pattern, inner = patternSchema pattern := by
  cases h with
  | patterns =>
      obtain ⟨pattern, -, rfl⟩ := List.mem_map.1 hinner
      exact ⟨pattern, rfl⟩
  | _ => cases hinner

section RestrictionEntry

variable {base : String} {r : Restriction}

/-- Every keyword of a schema is one of a restriction. -/
def OfRestriction (c : Conversion) (base : String) (r : Restriction) (s : JsonSchema) : Prop :=
  ∀ entry ∈ s.keywords, c.RestrictionEntry base r entry

theorem OfRestriction.put {s : JsonSchema} (h : c.OfRestriction base r s) {keyword : String}
    {value : Keyword} (hnew : c.RestrictionEntry base r (keyword, value)) :
    c.OfRestriction base r (s.put keyword value) := by
  intro entry hentry
  rcases Fields.mem_of_mem_put hentry with hold | rfl
  · exact h entry hold
  · exact hnew

theorem OfRestriction.putFacet {s : JsonSchema} (h : c.OfRestriction base r s) {keyword : String}
    (hkeyword : keyword ∈ lengthKeywords ++ boundKeywords) (facet? : Option String) :
    c.OfRestriction base r (putFacet keyword facet? s) := by
  unfold Conversion.putFacet
  split
  · exact h
  · rename_i number _
    exact h.put (.facet number hkeyword)

theorem OfRestriction.putPatterns {s : JsonSchema} (h : c.OfRestriction base r s) :
    c.OfRestriction base r (putPatterns r s) := by
  unfold Conversion.putPatterns
  split
  · exact h
  · exact h.put (.pattern _)
  · exact h.put .patterns

theorem OfRestriction.putFacets {s : JsonSchema} (h : c.OfRestriction base r s) (type : Json) :
    c.OfRestriction base r (putFacets type r s) := by
  have hlengths : c.OfRestriction base r (putLengths r s) :=
    (((h.putFacet (by decide) _).putFacet (by decide) _).putFacet (by decide) _).putFacet
      (by decide) _
  have hbounds : c.OfRestriction base r (putBounds r s) :=
    (((h.putFacet (by decide) _).putFacet (by decide) _).putFacet (by decide) _).putFacet
      (by decide) _
  unfold Conversion.putFacets
  split
  · exact hlengths.putPatterns
  · exact hbounds
  · exact hbounds
  · exact h

theorem ofRestriction_baseSchema : c.OfRestriction base r (baseSchema (c.typeMap.keywords base)) := by
  rw [baseSchema_eq]
  refine List.foldlRecOn (motive := c.OfRestriction base r) _ _ (fun entry hentry => ?_)
    fun s hs keyword hkeyword => ?_
  · rw [List.mem_singleton.1 hentry]
    exact .type
  · unfold inheritKeyword
    split
    · exact hs
    · exact hs
    · rename_i value _ hvalue
      exact hs.put (.inherited hkeyword (Fields.mem_of_value? hvalue))

/-- **The keywords of a restriction** are taken over from its base, or are its origin, its enumerated
values, its facets and its patterns. -/
theorem exists_ofRestriction {s : JsonSchema} (h : c.restrictionSchema? r = some s) :
    ∃ base, c.OfRestriction base r s := by
  obtain ⟨base, -, -, rfl⟩ := restrictionSchema?_eq_some_iff.1 h
  have hnoted : c.OfRestriction base r (c.noteOrigin base (baseSchema (c.typeMap.keywords base))) := by
    intro entry hentry
    rcases mem_keywords_noteOrigin hentry with hold | rfl
    · exact ofRestriction_baseSchema entry hold
    · exact .origin
  refine ⟨base, OfRestriction.putFacets ?_ _⟩
  unfold putEnumeration
  split
  · exact hnoted
  · exact hnoted.put .enumeration

end RestrictionEntry

/-! ## What holds of every node -/

/-- What the single steps of a conversion make true of the nodes that they write. -/
structure NodeLaw (c : Conversion) (schema : Schema) (P : JsonSchema → Prop) : Prop where
  unconstrained : P .unconstrained
  array : ∀ minItems? items, P (.array minItems? items)
  /-- An object of declared properties, after earlier properties that are all required. -/
  object : ∀ earlier declared, (Fields.names earlier).Nodup →
    P (.object (declaredProperties earlier declared)
      (declaredRequired (Fields.names earlier) declared))
  allOf : ∀ schemas, P (.allOf schemas)
  anyOf : ∀ schemas, P (.anyOf schemas)
  /-- The keywords of a complex type laid over those of a simple type or a type name. -/
  merged : ∀ keywords names type, P keywords → P (c.complexTypeSchema names type) →
    P (keywords.update (c.complexTypeSchema names type))
  /-- A type that the schema uses by its name. -/
  typeName : ∀ name, schema.Mentions name → P (c.typeSchema name)
  /-- The type that an element names. -/
  elementType : ∀ name, schema.Mentions name → P (c.namedSchema name)
  unionMember : ∀ name, schema.Mentions name → P (c.unionMemberSchema name)
  restriction : ∀ r s, c.restrictionSchema? r = some s → P s
  /-- One of several patterns. -/
  pattern : ∀ pattern, P (patternSchema pattern)

section NodeLaw

variable {P : JsonSchema → Prop}

/-- A property is written as one of the schemas that were declared for it, or as an earlier one. -/
theorem mem_declaredProperties {earlier : Fields JsonSchema} {declared : List Declared}
    {entry : String × JsonSchema} (h : entry ∈ declaredProperties earlier declared) :
    entry ∈ earlier ∨ ∃ d ∈ declared, entry = (d.name, d.schema) := by
  rcases Fields.mem_of_mem_update h with hearlier | hdeclared
  · exact Or.inl hearlier
  · obtain ⟨d, hd, rfl⟩ := List.mem_map.1 hdeclared
    exact Or.inr ⟨d, hd, rfl⟩

theorem NodeLaw.everywhere_typeSchema (law : NodeLaw c schema P) {name : String}
    (h : schema.Mentions name) : (c.typeSchema name).Everywhere P :=
  everywhere_of_keywords (fun _ hentry => (typeEntry_of_mem_typeSchema hentry).children_eq_nil)
    (law.typeName name h)

theorem NodeLaw.everywhere_restriction (law : NodeLaw c schema P) {r : Restriction}
    {s : JsonSchema} (h : c.restrictionSchema? r = some s) : s.Everywhere P := by
  refine everywhere_iff.2 ⟨law.restriction r s h, fun inner hinner => ?_⟩
  obtain ⟨entry, hentry, hinner⟩ := List.mem_flatMap.1 hinner
  obtain ⟨base, hkeywords⟩ := exists_ofRestriction h
  obtain ⟨pattern, rfl⟩ := (hkeywords entry hentry).mem_children hinner
  exact everywhere_of_keywords (fun _ h => List.mem_singleton.1 h ▸ rfl) (law.pattern pattern)

theorem NodeLaw.everywhere_simpleType (law : NodeLaw c schema P) {type : SimpleType}
    (htype : schema.ContainsSimple type) {s : JsonSchema} (h : c.simpleTypeSchema? type = some s) :
    s.Everywhere P := by
  -- Only the inline items of a list lead from a simple type to another one.
  induction type using SimpleType.itemsInduction generalizing s with
  | step type ih =>
      cases hlist : type.list? with
      | some list =>
          rw [c.simpleTypeSchema?_of_list hlist, listSchema?_eq] at h
          obtain ⟨items, hitems, rfl⟩ := Option.map_eq_some_iff.1 h
          refine everywhere_array.2 ⟨law.array _ _, ?_⟩
          split at hitems
          · rename_i name hname
            cases hitems
            exact law.everywhere_typeSchema (.item htype hlist hname)
          · rename_i inner _ hinner
            exact ih list inner hlist hinner (.items htype hlist hinner) hitems
          · cases hitems
      | none =>
          rw [c.simpleTypeSchema?_of_no_list hlist] at h
          split at h
          · exact law.everywhere_restriction h
          · rename_i union _ hunion
            unfold unionSchema? at h
            split at h
            · cases h
            · cases h
              refine everywhere_anyOf.2 ⟨law.anyOf _, fun member hmember => ?_⟩
              obtain ⟨name, hname, rfl⟩ := List.mem_map.1 hmember
              exact everywhere_of_keywords
                (fun _ hentry => (typeEntry_of_mem_unionMemberSchema hentry).children_eq_nil)
                (law.unionMember name (.member htype hunion hname))
          · cases h

theorem NodeLaw.everywhere_typeKeywords (law : NodeLaw c schema P) {element : Element}
    (helement : schema.Contains (.element element)) {keywords : JsonSchema}
    (h : c.typeKeywords? element = some keywords) : keywords.Everywhere P := by
  have hunconstrained : JsonSchema.unconstrained.Everywhere P :=
    everywhere_unconstrained law.unconstrained
  unfold typeKeywords? at h
  split at h
  · rename_i type htype
    split at h
    · rename_i found hfound
      cases h
      exact law.everywhere_simpleType (.inline helement htype) hfound
    · split at h
      · cases h
        exact hunconstrained
      · cases h
  · split at h
    · cases h
      exact hunconstrained
    · rename_i name hname
      cases h
      exact everywhere_of_keywords
        (fun _ hentry => (typeEntry_of_mem_namedSchema hentry).children_eq_nil)
        (law.elementType name (.element helement hname))

theorem NodeLaw.everywhere_object (law : NodeLaw c schema P) (earlier : Fields JsonSchema)
    {declared : List Declared} (hnodup : (Fields.names earlier).Nodup)
    (hearlier : ∀ entry ∈ earlier, entry.2.Everywhere P)
    (hdeclared : ∀ d ∈ declared, d.schema.Everywhere P) :
    (JsonSchema.object (declaredProperties earlier declared)
      (declaredRequired (Fields.names earlier) declared)).Everywhere P := by
  refine JsonSchema.everywhere_object.2 ⟨law.object earlier declared hnodup, fun entry hentry => ?_⟩
  rcases mem_declaredProperties hentry with h | ⟨d, hd, rfl⟩
  · exact hearlier entry h
  · exact hdeclared d hd

theorem NodeLaw.everywhere_presented (law : NodeLaw c schema P) {element : Element}
    {isArray : Bool} {single? : Option JsonSchema} {property : JsonSchema}
    (hsingle : ∀ single, single? = some single → single.Everywhere P)
    (h : presented element isArray single? = some property) : property.Everywhere P := by
  unfold presented at h
  split at h
  · cases h
  · split at h
    · -- An array of a single occurrence, or of anything when that has no schema.
      cases h
      refine everywhere_array.2 ⟨law.array _ _, ?_⟩
      cases single? with
      | none => exact everywhere_unconstrained law.unconstrained
      | some single => exact hsingle single rfl
    · exact hsingle property h

theorem NodeLaw.everywhere_declaredAttributes (law : NodeLaw c schema P) {type : ComplexType}
    {base : String} {extension : Extension} (htype : schema.Contains (.complexType type))
    (hshape : contentShape type = .extended base extension ∨
      contentShape type = .text base extension) {d : Declared}
    (h : d ∈ c.declaredAttributes extension.attributes) : d.schema.Everywhere P := by
  obtain ⟨a, ha, hd⟩ := List.mem_filterMap.1 h
  obtain ⟨name, -, hd⟩ := Option.bind_eq_some_iff.1 hd
  obtain ⟨s, hs, hd⟩ := Option.bind_eq_some_iff.1 hd
  cases hd
  -- The type of an attribute is a name, or else an inline restriction.
  unfold attributeSchema? at hs
  split at hs
  · rename_i typeName hname
    cases hs
    exact law.everywhere_typeSchema
      (.attributeType htype (extends_of_contentShape hshape).1 ha hname)
  · obtain ⟨r, -, hr⟩ := Option.bind_eq_some_iff.1 hs
    exact law.everywhere_restriction hr

/-- The schemas of elements and complex types have the property at every node. -/
theorem NodeLaw.elements (law : NodeLaw c schema P) (hc : c.registry = Registry.ofSchema schema) :
    (∀ names element, schema.Contains (.element element) → ∀ single,
      c.singleSchema? names element = some single → single.Everywhere P) ∧
    ∀ names type, schema.Contains (.complexType type) →
      (c.complexTypeSchema names type).Everywhere P := by
  apply emissionInduction
  · intro names element hname _ single hsingle
    rw [singleSchema?_eq, hname] at hsingle
    cases hsingle
  · intro names element ih helement single hsingle
    rw [singleSchema?_eq] at hsingle
    split at hsingle
    · cases hsingle
    · obtain ⟨keywords, hkeywords, rfl⟩ := Option.map_eq_some_iff.1 hsingle
      have heverywhere := law.everywhere_typeKeywords helement hkeywords
      cases htype : element.complexType? with
      | none => exact heverywhere
      | some type =>
          have hcomplex := ih type htype (.inline helement htype)
          exact heverywhere.update hcomplex
            (law.merged keywords names type heverywhere.self hcomplex.self)
  · intro names type ih htype
    rw [complexTypeSchema_eq]
    split
    · exact everywhere_unconstrained law.unconstrained
    · rename_i inner henter
      -- The members of the type are contained in the schema as the type is.
      have helements : ∀ d ∈ c.declaredElements inner (contentShape type).sequence?,
          d.schema.Everywhere P := by
        intro d hd
        rw [declaredElements_eq] at hd
        obtain ⟨m, hm, hd⟩ := List.mem_filterMap.1 hd
        obtain ⟨property, hproperty, rfl⟩ := Option.map_eq_some_iff.1 hd
        refine law.everywhere_presented (ih inner m henter hm ?_) hproperty
        exact htype.of_mem_optionalMembers (hc ▸ hm)
      have hbase : ∀ base extension, contentShape type = .extended base extension ∨
          contentShape type = .text base extension → (c.typeSchema base).Everywhere P := by
        intro base extension hshape
        obtain ⟨hextension, hname⟩ := extends_of_contentShape hshape
        exact law.everywhere_typeSchema (.base htype hextension hname)
      unfold contentSchema
      cases hshape : contentShape type with
      | extended base extension =>
          rw [hshape] at helements
          refine everywhere_allOf.2 ⟨law.allOf _, ?_⟩
          rw [List.forall_mem_cons, List.forall_mem_cons]
          refine ⟨hbase base extension (Or.inl hshape), ?_, List.forall_mem_nil _⟩
          refine law.everywhere_object [] List.nodup_nil (List.forall_mem_nil _) fun d hd => ?_
          rcases List.mem_append.1 hd with hd | hd
          · exact helements d hd
          · exact law.everywhere_declaredAttributes htype (Or.inl hshape) hd
      | text base extension =>
          refine law.everywhere_object [("#text", c.typeSchema base)] (by simp [Fields.names]) ?_
            fun d hd => law.everywhere_declaredAttributes htype (Or.inr hshape) hd
          rw [List.forall_mem_singleton]
          exact hbase base extension (Or.inr hshape)
      | plain sequence? =>
          rw [hshape] at helements
          exact law.everywhere_object [] List.nodup_nil (List.forall_mem_nil _) helements

/-- **A property of single steps holds of every node of a schema document**, when it holds of the
document itself. -/
theorem NodeLaw.schemaDocument (law : NodeLaw c schema P)
    (hc : c.registry = Registry.ofSchema schema) {names : OpenNames}
    (hself : P (c.schemaDocument names schema)) :
    (c.schemaDocument names schema).Everywhere P := by
  obtain ⟨hsingle, hcomplex⟩ := law.elements hc
  refine everywhere_iff.2 ⟨hself, fun inner hinner => ?_⟩
  -- Only the tables of properties and of definitions hold schemas.
  have htables : inner ∈ (declaredProperties [] (c.declaredRoots names schema)).map Prod.snd ∨
      inner ∈ (c.definitions names schema).map Prod.snd := by
    simpa [children, Conversion.schemaDocument, keywords, Keyword.children, Keyword.text] using
      hinner
  rcases htables with h | h
  · obtain ⟨entry, hentry, rfl⟩ := List.mem_map.1 h
    rcases mem_declaredProperties hentry with hentry | ⟨d, hd, rfl⟩
    · cases hentry
    · obtain ⟨element, helement, hd⟩ := List.mem_filterMap.1 hd
      obtain ⟨property, hproperty, rfl⟩ := Option.map_eq_some_iff.1 hd
      exact law.everywhere_presented (hsingle names element (.element helement)) hproperty
  · obtain ⟨entry, hentry, rfl⟩ := List.mem_map.1 h
    rcases Fields.mem_of_mem_update hentry with hentry | hentry
    · cases hentry
    · rcases List.mem_append.1 hentry with hentry | hentry
      · obtain ⟨type, htype, hentry⟩ := List.mem_filterMap.1 hentry
        obtain ⟨name, -, hentry⟩ := Option.bind_eq_some_iff.1 hentry
        obtain ⟨definition, hdefinition, hentry⟩ := Option.bind_eq_some_iff.1 hentry
        cases hentry
        exact law.everywhere_simpleType (.top htype) hdefinition
      · obtain ⟨type, htype, hentry⟩ := List.mem_filterMap.1 hentry
        obtain ⟨name, -, rfl⟩ := Option.map_eq_some_iff.1 hentry
        exact hcomplex names type (.complexType htype)

end NodeLaw

end Conversion

end SchemaBridge
