import SchemaBridge.Proofs.JsonSchema.Nodes
import SchemaBridge.Proofs.JsonSchema.Reach

/-!
# Schemas of text

The text of an element, the value of an attribute and the words of a list have schemas of text
(`Conversion.IsText`): those of type names, restrictions, lists and unions. A schema of text is no
object and has no properties. Its items, its branches and the definition that it refers to are
schemas of text again, as long as the type names that the schema uses for text are not those of
complex types (`Schema.TextsSimple`).
-/

set_option autoImplicit false

namespace SchemaBridge

open Xsd JsonSchema

namespace Xsd

/-- A schema uses a type name for text: as the type of an attribute or of the items of a list, or as
the base of simple content. -/
inductive Schema.NamesText (schema : Schema) : String → Prop where
  | attributeType {type : ComplexType} {extension : Extension} {declaration : Attribute}
      {name : String} (h : schema.Contains (.complexType type))
      (hextension : type.Extends extension) (hdeclaration : declaration ∈ extension.attributes)
      (hname : nonempty? declaration.typeName? = some name) : NamesText schema name
  | item {type : SimpleType} {list : ListType} {name : String} (h : schema.ContainsSimple type)
      (hlist : type.list? = some list) (hname : nonempty? list.itemType? = some name) :
      NamesText schema name
  | base {type : ComplexType} {extension : Extension} {name : String}
      (h : schema.Contains (.complexType type)) (hshape : contentShape type = .text name extension) :
      NamesText schema name

/-- No complex type stands where a schema wants text. -/
def Schema.TextsSimple (schema : Schema) : Prop :=
  ∀ name, schema.NamesText name → (Registry.ofSchema schema).complexTypes.value? name = none

end Xsd

theorem JsonSchema.value?_eq_none {node : JsonSchema} {keyword : String}
    (h : ∀ entry ∈ node.keywords, entry.1 ≠ keyword) : node.value? keyword = none := by
  cases hvalue : node.value? keyword with
  | none => rfl
  | some value => exact absurd rfl (h _ (Fields.mem_of_value? hvalue))

namespace Conversion

variable {c : Conversion} {schema : Schema}

/-! ## Keywords of text -/

/-- A keyword of a text: no table of properties, no items, and not the type of objects or arrays. -/
structure TextEntry (entry : String × Keyword) : Prop where
  ne_properties : entry.1 ≠ "properties"
  ne_items : entry.1 ≠ "items"
  ne_object : entry ≠ ("type", .text "object")
  ne_array : entry ≠ ("type", .text "array")

theorem textEntry_of_mem_builtin {typeName keyword : String} {value : Json}
    (h : (keyword, value) ∈ TypeMap.builtin.keywords typeName) :
    TextEntry (keyword, .data value) := by
  obtain ⟨b, hb⟩ := TypeMap.exists_of_mem_builtin h
  have hmapping : ∀ entry ∈ b.mapping, entry.1 ≠ "properties" ∧ entry.1 ≠ "items" ∧
      entry ≠ ("type", .str "object") ∧ entry ≠ ("type", .str "array") := by
    cases b <;> simp [Builtin.mapping, Builtin.ofType, Builtin.ofFormat, Builtin.boundedAtZero]
  obtain ⟨hproperties, hitems, hobject, harray⟩ := hmapping _ hb
  have hplain : ∀ type, (keyword, Keyword.data value) = ("type", .text type) →
      (keyword, value) = ("type", .str type) := by
    intro type heq
    cases heq
    rfl
  exact ⟨hproperties, hitems, fun heq => hobject (hplain _ heq), fun heq => harray (hplain _ heq)⟩

theorem TypeEntry.textEntry (hmap : c.typeMap = TypeMap.builtin) {typeName : String}
    {entry : String × Keyword} (h : c.TypeEntry typeName entry) : TextEntry entry := by
  cases h with
  | primitive hmem => exact textEntry_of_mem_builtin (hmap ▸ hmem)
  | _ => constructor <;> simp [originKey, Keyword.text]

theorem RestrictionEntry.textEntry (hmap : c.typeMap = TypeMap.builtin) {base : String}
    {r : Restriction} {entry : String × Keyword} (h : c.RestrictionEntry base r entry) :
    TextEntry entry := by
  have hfacets : ∀ keyword ∈ lengthKeywords ++ boundKeywords,
      keyword ≠ "properties" ∧ keyword ≠ "items" ∧ keyword ≠ "type" := by decide
  cases h with
  | type =>
      have htype : c.TypeEntry base
          ("type", .data (((c.typeMap.keywords base).value? "type").getD .null)) :=
        typeEntry_of_getD rfl
      exact htype.textEntry hmap
  | inherited _ hmem => exact textEntry_of_mem_builtin (hmap ▸ hmem)
  | facet number hkeyword =>
      obtain ⟨hproperties, hitems, htype⟩ := hfacets _ hkeyword
      exact ⟨hproperties, hitems, fun heq => htype (Prod.mk.inj heq).1,
        fun heq => htype (Prod.mk.inj heq).1⟩
  | _ => constructor <;> simp [originKey, Keyword.text]

/-- A restriction refers to nothing. -/
theorem RestrictionEntry.ne_reference {base : String} {r : Restriction}
    {entry : String × Keyword} (h : c.RestrictionEntry base r entry) : entry.1 ≠ "$ref" := by
  have hinherited : ∀ keyword ∈ inheritedKeywords, keyword ≠ "$ref" := by decide
  have hfacets : ∀ keyword ∈ lengthKeywords ++ boundKeywords, keyword ≠ "$ref" := by decide
  cases h with
  | inherited hkeyword => exact hinherited _ hkeyword
  | facet _ hkeyword => exact hfacets _ hkeyword
  | _ => simp [originKey]

section TextEntry

variable {s : JsonSchema}

theorem properties_eq_nil_of_textEntry (h : ∀ entry ∈ s.keywords, TextEntry entry) :
    s.properties = [] := by
  rw [properties, value?_eq_none fun entry hentry => (h entry hentry).ne_properties]

theorem items?_eq_none_of_textEntry (h : ∀ entry ∈ s.keywords, TextEntry entry) :
    s.items? = none := by
  rw [items?, value?_eq_none fun entry hentry => (h entry hentry).ne_items]

theorem not_isObject_of_textEntry (h : ∀ entry ∈ s.keywords, TextEntry entry) : ¬ s.IsObject :=
  fun hobject => (h _ (Fields.mem_of_value? hobject)).ne_object rfl

theorem not_isArray_of_textEntry (h : ∀ entry ∈ s.keywords, TextEntry entry) : ¬ s.IsArray :=
  fun harray => (h _ (Fields.mem_of_value? harray)).ne_array rfl

end TextEntry

/-! ## Type names -/

/-- A schema that stands for a type name, with or without its origin. -/
def StandsFor (c : Conversion) (typeName : String) (s : JsonSchema) : Prop :=
  ∀ entry ∈ s.keywords, c.TypeEntry typeName entry

theorem standsFor_typeSchema (typeName : String) :
    c.StandsFor typeName (c.typeSchema typeName) :=
  fun _ hentry => typeEntry_of_mem_typeSchema hentry

theorem standsFor_namedSchema (typeName : String) :
    c.StandsFor typeName (c.namedSchema typeName) :=
  fun _ hentry => typeEntry_of_mem_namedSchema hentry

section StandsFor

variable {typeName : String} {s : JsonSchema}

theorem StandsFor.textEntry (h : c.StandsFor typeName s) (hmap : c.typeMap = TypeMap.builtin) :
    ∀ entry ∈ s.keywords, TextEntry entry :=
  fun entry hentry => (h entry hentry).textEntry hmap

/-- A type name stands for data only, and so for no branches. -/
theorem StandsFor.branches_eq_nil (h : c.StandsFor typeName s) : s.branches = [] := by
  unfold branches
  split
  · rename_i schemas hvalue
    have hentry := h _ (Fields.mem_of_value? hvalue)
    generalize "allOf" = key at hentry
    generalize hschemas : Keyword.schemas schemas = keyword at hentry
    cases hentry <;> cases hschemas
  · rfl

/-- A schema that stands for a type name refers to no other name. -/
theorem StandsFor.eq_of_reference? (h : c.StandsFor typeName s)
    (hmap : c.typeMap = TypeMap.builtin) {name : String}
    (href : s.reference? = some (c.options.dialect.reference name)) : name = typeName := by
  unfold reference? at href
  split at href
  · rename_i target hvalue
    rw [Option.some.injEq] at href
    have hentry := h _ (Fields.mem_of_value? hvalue)
    generalize hkey : "$ref" = key at hentry
    generalize htarget : Keyword.data (.str target) = keyword at hentry
    cases hentry with
    | origin => simp [originKey] at hkey
    | untyped => simp at hkey
    | primitive hmem =>
        -- No built-in type has a reference.
        obtain ⟨b, hb⟩ := TypeMap.exists_of_mem_builtin (hmap ▸ hmem)
        have hne : ∀ entry ∈ b.mapping, entry.1 ≠ "$ref" := by
          cases b <;> simp [Builtin.mapping, Builtin.ofType, Builtin.ofFormat,
            Builtin.boundedAtZero]
        exact absurd hkey.symm (hne _ hb)
    | reference =>
        cases htarget
        exact (c.options.dialect.reference_inj href).symm
  · cases href

end StandsFor

/-! ## Schemas of text -/

/-- A schema of text: of a type name without a complex type, of a restriction, a list or a union. -/
inductive IsText (c : Conversion) : JsonSchema → Prop where
  | unconstrained : IsText c .unconstrained
  | typeName {name : String} {s : JsonSchema} (h : c.StandsFor name s)
      (hcomplex : c.registry.complexTypes.value? name = none) : IsText c s
  | restriction {r : Restriction} {s : JsonSchema} (h : c.restrictionSchema? r = some s) :
      IsText c s
  | pattern (pattern : String) : IsText c (patternSchema pattern)
  | list {items : JsonSchema} (h : IsText c items) : IsText c (.array none items)
  | union (members : List JsonSchema) : IsText c (.anyOf members)

section IsText

variable {s : JsonSchema}

theorem IsText.properties_eq_nil (h : c.IsText s) (hmap : c.typeMap = TypeMap.builtin) :
    s.properties = [] := by
  cases h with
  | typeName h => exact properties_eq_nil_of_textEntry (h.textEntry hmap)
  | restriction h =>
      obtain ⟨base, hkeywords⟩ := exists_ofRestriction h
      exact properties_eq_nil_of_textEntry fun entry hentry => (hkeywords entry hentry).textEntry hmap
  | _ => rfl

theorem IsText.not_isObject (h : c.IsText s) (hmap : c.typeMap = TypeMap.builtin) :
    ¬ s.IsObject := by
  cases h with
  | typeName h => exact not_isObject_of_textEntry (h.textEntry hmap)
  | restriction h =>
      obtain ⟨base, hkeywords⟩ := exists_ofRestriction h
      exact not_isObject_of_textEntry fun entry hentry => (hkeywords entry hentry).textEntry hmap
  | list => exact not_isObject_array
  | _ => exact fun h => nomatch h

theorem IsText.of_items? (h : c.IsText s) (hmap : c.typeMap = TypeMap.builtin)
    {items : JsonSchema} (hitems : s.items? = some items) : c.IsText items := by
  cases h with
  | typeName h =>
      rw [items?_eq_none_of_textEntry (h.textEntry hmap)] at hitems
      cases hitems
  | restriction h =>
      obtain ⟨base, hkeywords⟩ := exists_ofRestriction h
      rw [items?_eq_none_of_textEntry fun entry hentry =>
        (hkeywords entry hentry).textEntry hmap] at hitems
      cases hitems
  | list h =>
      cases hitems
      exact h
  | _ => cases hitems

theorem IsText.of_mem_branches (h : c.IsText s) {branch : JsonSchema}
    (hbranch : branch ∈ s.branches) : c.IsText branch := by
  cases h with
  | typeName h =>
      rw [h.branches_eq_nil] at hbranch
      cases hbranch
  | restriction h =>
      -- The branches of a restriction are patterns.
      obtain ⟨base, hkeywords⟩ := exists_ofRestriction h
      unfold branches at hbranch
      split at hbranch
      · rename_i schemas hvalue
        obtain ⟨pattern, rfl⟩ :=
          (hkeywords _ (Fields.mem_of_value? hvalue)).mem_children hbranch
        exact .pattern pattern
      · cases hbranch
  | _ => cases hbranch

theorem IsText.of_reference? (h : c.IsText s) (hmap : c.typeMap = TypeMap.builtin)
    (hc : c.registry = Registry.ofSchema schema)
    (hsimple : ∀ type ∈ schema.simpleTypes, ∀ definition,
      c.simpleTypeSchema? type = some definition → c.IsText definition)
    {name : String} {definition : JsonSchema}
    (href : s.reference? = some (c.options.dialect.reference name))
    (hdefinition : (c.definitions {} schema).value? name = some definition) :
    c.IsText definition := by
  cases h with
  | typeName h hcomplex =>
      -- No complex type has the name, so the definition is that of a simple type.
      rw [h.eq_of_reference? hmap href, value?_definitions hc, hcomplex] at hdefinition
      obtain ⟨type, htype, hschema⟩ := Option.bind_eq_some_iff.1 hdefinition
      have hmem := (List.mem_filter.1 (mem_of_value?_indexByName htype).1).1
      exact hsimple type hmem definition hschema
  | restriction h =>
      obtain ⟨base, hkeywords⟩ := exists_ofRestriction h
      rw [reference?, value?_eq_none fun entry hentry =>
        (hkeywords entry hentry).ne_reference] at href
      cases href
  | _ => cases href

end IsText

/-! ## Where text is written -/

theorem isText_typeSchema (hc : c.registry = Registry.ofSchema schema)
    (htexts : schema.TextsSimple) {name : String} (h : schema.NamesText name) :
    c.IsText (c.typeSchema name) :=
  .typeName (standsFor_typeSchema name) (hc ▸ htexts name h)

/-- A simple type is written as text, and the items of a list are too. -/
theorem isText_simpleTypeSchema? (hc : c.registry = Registry.ofSchema schema)
    (htexts : schema.TextsSimple) {type : SimpleType} (htype : schema.ContainsSimple type)
    {s : JsonSchema} (h : c.simpleTypeSchema? type = some s) : c.IsText s := by
  -- The induction follows the items of lists; the members of a union are not walked into.
  induction type using SimpleType.itemsInduction generalizing s with
  | step type ih =>
      cases hlist : type.list? with
      | some list =>
          rw [c.simpleTypeSchema?_of_list hlist, listSchema?_eq] at h
          obtain ⟨items, hitems, rfl⟩ := Option.map_eq_some_iff.1 h
          apply IsText.list
          split at hitems
          · rename_i name hname
            cases hitems
            exact isText_typeSchema hc htexts (.item htype hlist hname)
          · rename_i inner _ hinner
            exact ih list inner hlist hinner (.items htype hlist hinner) hitems
          · cases hitems
      | none =>
          rw [c.simpleTypeSchema?_of_no_list hlist] at h
          split at h
          · exact .restriction h
          · unfold unionSchema? at h
            split at h
            · cases h
            · cases h
              exact .union _
          · cases h

/-- The value of an attribute is text, and never a list. -/
theorem isText_attributeSchema? (hmap : c.typeMap = TypeMap.builtin)
    (hc : c.registry = Registry.ofSchema schema) (htexts : schema.TextsSimple)
    {type : ComplexType} {extension : Extension} {declaration : Attribute}
    (htype : schema.Contains (.complexType type)) (hextension : type.Extends extension)
    (hdeclaration : declaration ∈ extension.attributes) {s : JsonSchema}
    (h : c.attributeSchema? declaration = some s) : c.IsText s ∧ ¬ s.IsArray := by
  unfold attributeSchema? at h
  split at h
  · rename_i typeName hname
    cases h
    exact ⟨isText_typeSchema hc htexts (.attributeType htype hextension hdeclaration hname),
      not_isArray_of_textEntry ((standsFor_typeSchema typeName).textEntry hmap)⟩
  · obtain ⟨r, -, hr⟩ := Option.bind_eq_some_iff.1 h
    exact ⟨.restriction hr, not_isArray_restrictionSchema? hmap hr⟩

end Conversion

end SchemaBridge
