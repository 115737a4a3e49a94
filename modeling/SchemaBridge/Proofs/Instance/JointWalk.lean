import SchemaBridge.Proofs.Instance.Validity
import SchemaBridge.Proofs.JsonSchema.Shape

/-!
# Walking a schema and a value together

A converted schema and the value of an instance document are walked together
(`JsonSchema.Meets`): from a schema to its properties and from the value to its fields, to items on
both sides, and to branches and definitions with the value unchanged.

What such a walk can come to is limited (`Conversion.Fits`): a schema of text, the schema of a type
whose content the value was read from, or an array whose items are of these kinds. Each step keeps to
them. A branch or a definition is still about the same element (`fits_contentSchema`); a property is
that of an attribute or that of a child name, and then its value is what was read from the children of
the name (`fits_member`), which is a list where the property is an array.
-/

set_option autoImplicit false

namespace SchemaBridge

open Xsd

/-! ## Walking a schema and a value -/

namespace JsonSchema

/-- A walk through a schema document and a value together comes to a schema and a value. -/
inductive Meets (dialect : Dialect) (output : JsonSchema) (value : Json) :
    JsonSchema → Json → Prop where
  | start : Meets dialect output value output value
  | reference {schema definition : JsonSchema} {v : Json} {name : String}
      (h : Meets dialect output value schema v)
      (href : schema.reference? = some (dialect.reference name))
      (hdefinition : (output.definitionsIn dialect).value? name = some definition) :
      Meets dialect output value definition v
  | branch {schema branch : JsonSchema} {v : Json} (h : Meets dialect output value schema v)
      (hbranch : branch ∈ schema.branches) : Meets dialect output value branch v
  | property {schema property : JsonSchema} {fields : List (String × Json)} {name : String}
      {v : Json} (h : Meets dialect output value schema (.obj fields))
      (hproperty : schema.properties.value? name = some property)
      (hv : Fields.value? fields name = some v) : Meets dialect output value property v
  | item {schema items : JsonSchema} {values : List Json} {v : Json}
      (h : Meets dialect output value schema (.arr values)) (hitems : schema.items? = some items)
      (hv : v ∈ values) : Meets dialect output value items v

end JsonSchema

open JsonSchema

namespace Conversion

/-- A valid instance is read with the shape of the document that is converted. -/
structure Materializes (c : Conversion) (document : Document) (schema : Schema)
    (shape : InstanceShape) (root : Xml.Element) : Prop where
  document_schema : document.schema? = some schema
  registry : c.registry = Registry.ofSchema schema
  typeMap : c.typeMap = TypeMap.builtin
  unbounded : c.options.treatUnboundedAsArray = true
  orderly : schema.Orderly
  shape : shape.Follows document c.options
  accepts : schema.Accepts root

/-! ## What a walk comes to -/

section Fits

variable (c : Conversion) (schema : Schema) (shape : InstanceShape) (root : Xml.Element)

/-- A value is that of an element of the instance which a declaration describes. -/
def ValueOf (element : Element) (v : Json) : Prop :=
  ∃ path x, schema.Describes root path element x ∧ shape.elementValue (joinedPath path) x = .ok v

/-- A property that the content of an element declares: for a member of the content, or for an
attribute of one of its types. -/
inductive DeclaredIn (element : Element) : Declared → Prop where
  | member {d : Declared} {m : Member} {names : OpenNames}
      (hm : m ∈ element.contentMembers (Registry.ofSchema schema) {})
      (hname : nonempty? m.element.name? = some d.name)
      (hrequired : d.required = true → m.optional = false ∧ m.element.occurs.isOptional = false)
      (hschema : presented m.element (c.options.isArrayMember m)
        (c.singleSchema? names m.element) = some d.schema) : DeclaredIn element d
  | attributeOf {d : Declared} {type : ComplexType} {extension : Extension}
      {declaration : Attribute} {name : String}
      (hincludes : element.Includes (Registry.ofSchema schema) type)
      (hextension : type.Extends extension) (hdeclaration : declaration ∈ extension.attributes)
      (hname : nonempty? declaration.name? = some name) (hd : d.name = attributeMark ++ name)
      (hrequired : d.required = declaration.isRequired)
      (hschema : c.attributeSchema? declaration = some d.schema) : DeclaredIn element d

/-- A schema and a value to which a walk can come together. -/
inductive Fits : JsonSchema → Json → Prop where
  | text {s : JsonSchema} {v : Json} (h : c.IsText s) : Fits s v
  /-- The name of a type whose content the value was read from. -/
  | reference {s : JsonSchema} {v : Json} {element : Element} {type : ComplexType} {name : String}
      (h : c.StandsFor name s)
      (htype : (Registry.ofSchema schema).complexTypes.value? name = some type)
      (hincludes : element.Includes (Registry.ofSchema schema) type)
      (hv : ValueOf schema shape root element v) : Fits s v
  | allOf {branches : List JsonSchema} {v : Json} (h : ∀ branch ∈ branches, Fits branch v) :
      Fits (.allOf branches) v
  | object {earlier : Fields JsonSchema} {declared : List Declared} {element : Element} {v : Json}
      (hearlier : ∀ entry ∈ earlier,
        entry.1 = InstanceShape.textKey ∧ c.IsText entry.2 ∧ ¬ entry.2.IsArray)
      (hdeclared : ∀ d ∈ declared, DeclaredIn c schema element d)
      (hv : ValueOf schema shape root element v) :
      Fits (.object (declaredProperties earlier declared)
        (declaredRequired (Fields.names earlier) declared)) v
  | array {minItems? : Option Int} {items : JsonSchema} {values : List Json}
      (h : ∀ v ∈ values, Fits items v) : Fits (.array minItems? items) (.arr values)
  | document {v : Json} (hv : shape.elementValue root.name.localName root = .ok v) :
      Fits (c.schemaDocument {} schema) (.obj [(root.name.localName, v)])

end Fits

variable {c : Conversion} {document : Document} {schema : Schema} {shape : InstanceShape}
  {root : Xml.Element} {element : Element} {v : Json}

/-- A type name whose type, if it is a complex one, describes the element. -/
theorem fits_of_standsFor (hc : c.registry = Registry.ofSchema schema)
    (hv : ValueOf schema shape root element v) {name : String} {s : JsonSchema}
    (h : c.StandsFor name s)
    (hincludes : ∀ type, (Registry.ofSchema schema).complexTypes.value? name = some type →
      element.Includes (Registry.ofSchema schema) type) : Fits c schema shape root s v := by
  cases htype : (Registry.ofSchema schema).complexTypes.value? name with
  | none => exact .text (.typeName h (hc ▸ htype))
  | some type => exact .reference h htype (hincludes type htype) hv

/-- The elements of a type that describes an element are declared in its content. -/
theorem declaredIn_of_mem_declaredElements (hc : c.registry = Registry.ofSchema schema)
    (hregular : schema.Regular) (helement : schema.Contains (.element element))
    {type : ComplexType} (hincludes : element.Includes (Registry.ofSchema schema) type)
    {names : OpenNames} {d : Declared}
    (hd : d ∈ c.declaredElements names (contentShape type).sequence?) :
    DeclaredIn c schema element d := by
  rw [declaredElements_eq] at hd
  obtain ⟨m, hm, hd⟩ := List.mem_filterMap.1 hd
  obtain ⟨s, hs, rfl⟩ := Option.map_eq_some_iff.1 hd
  obtain ⟨name, hname⟩ := exists_name_of_presented hs
  rw [hc] at hm
  obtain ⟨inner, hinner⟩ := hincludes.exists_mem_contentMembers
    (fun inline hinline => hregular.inline_unnamed element inline helement hinline) hm
  refine .member hinner ?_ (fun hrequired => ?_) hs
  · rw [hname]
    exact congrArg some (nonempty?_getD hname).symm
  · simp only [Element.isRequired, Bool.and_eq_true, Bool.not_eq_true'] at hrequired
    exact ⟨hrequired.1, hrequired.2.1⟩

theorem declaredIn_of_mem_declaredAttributes {type : ComplexType}
    (hincludes : element.Includes (Registry.ofSchema schema) type) {extension : Extension}
    (hextension : type.Extends extension) {d : Declared}
    (hd : d ∈ c.declaredAttributes extension.attributes) : DeclaredIn c schema element d := by
  obtain ⟨declaration, hdeclaration, hd⟩ := List.mem_filterMap.1 hd
  obtain ⟨name, hname, hd⟩ := Option.bind_eq_some_iff.1 hd
  obtain ⟨s, hs, hd⟩ := Option.bind_eq_some_iff.1 hd
  cases hd
  exact .attributeOf hincludes hextension hdeclaration hname rfl rfl hs

theorem fits_objectOf {declared : List Declared}
    (hdeclared : ∀ d ∈ declared, DeclaredIn c schema element d)
    (hv : ValueOf schema shape root element v) :
    Fits c schema shape root (objectOf declared) v :=
  @Fits.object c schema shape root [] declared element v (fun _ hentry => nomatch hentry)
    hdeclared hv

/-- **The content of a type that describes an element** fits the value of the element. -/
theorem fits_contentSchema (h : c.Materializes document schema shape root)
    (hv : ValueOf schema shape root element v) {type : ComplexType}
    (hincludes : element.Includes (Registry.ofSchema schema) type) (names : OpenNames) :
    Fits c schema shape root (c.contentSchema names type) v := by
  have helement : schema.Contains (.element element) := by
    obtain ⟨path, x, hdescribes, -⟩ := hv
    exact hdescribes.contains
  have htype : schema.Contains (.complexType type) := hincludes.contains helement
  have helements : ∀ d ∈ c.declaredElements names (contentShape type).sequence?,
      DeclaredIn c schema element d := fun d hd =>
    declaredIn_of_mem_declaredElements h.registry h.orderly.regular helement hincludes hd
  have hattributes : ∀ base extension, contentShape type = .extended base extension ∨
      contentShape type = .text base extension →
      ∀ d ∈ c.declaredAttributes extension.attributes, DeclaredIn c schema element d :=
    fun _ _ hshape d hd =>
      declaredIn_of_mem_declaredAttributes hincludes (extends_of_contentShape hshape).1 hd
  unfold contentSchema
  cases hshape : contentShape type with
  | extended base extension =>
      rw [hshape] at helements
      apply Fits.allOf
      rw [List.forall_mem_cons, List.forall_mem_singleton]
      constructor
      · -- The base is a type of the element too, if it is a complex type.
        obtain ⟨hextension, hbase⟩ := (contentShape_eq_extended_iff ..).1 hshape
        exact fits_of_standsFor h.registry hv (standsFor_typeSchema base)
          fun _ hvalue => .base hincludes hextension hbase hvalue
      · refine fits_objectOf (fun d hd => ?_) hv
        rcases List.mem_append.1 hd with hd | hd
        · exact helements d hd
        · exact hattributes base extension (Or.inl hshape) d hd
  | text base extension =>
      have htext : ∀ entry ∈ [("#text", c.typeSchema base)],
          entry.1 = InstanceShape.textKey ∧ c.IsText entry.2 ∧ ¬ entry.2.IsArray := by
        rw [List.forall_mem_singleton]
        exact ⟨rfl, isText_typeSchema h.registry h.orderly.texts_simple (.base htype hshape),
          not_isArray_of_textEntry ((standsFor_typeSchema base).textEntry h.typeMap)⟩
      exact Fits.object htext (hattributes base extension (Or.inr hshape)) hv
  | plain sequence? =>
      rw [hshape] at helements
      exact fits_objectOf helements hv

/-- **A single occurrence of an element** fits the value of the element, which is a list where the
schema is that of an array. -/
theorem fits_singleSchema? (h : c.Materializes document schema shape root)
    (hv : ValueOf schema shape root element v) {names : OpenNames} {s : JsonSchema}
    (hs : c.singleSchema? names element = some s) :
    Fits c schema shape root s v ∧ (s.IsArray → ∃ values, v = .arr values) := by
  obtain ⟨path, x, hdescribes, hvalue⟩ := hv
  have helement := hdescribes.contains
  have hv : ValueOf schema shape root element v := ⟨path, x, hdescribes, hvalue⟩
  obtain ⟨entries, inSequence, repeats, hchain⟩ := hdescribes.exists_chain
  obtain ⟨name, hname⟩ := hchain.exists_name
  cases occurrenceOf_of_singleSchema? h.orderly.regular helement hname hs with
  | @complexType type htype =>
      exact ⟨fits_contentSchema h hv (.inline htype) names,
        fun harray => absurd harray (not_isArray_contentSchema names type)⟩
  | simpleType _ hsimple hs =>
      refine ⟨.text (isText_simpleTypeSchema? h.registry h.orderly.texts_simple
        (.inline helement hsimple) hs), fun harray => ?_⟩
      -- The path of a list is derived, and a valid element of a simple type is text only.
      rw [isArray_simpleTypeSchema?_iff h.typeMap hs] at harray
      have hlist := Document.mem_deriveListPaths_of_chain h.document_schema h.orderly.acyclic
        hchain hsimple harray
      rw [← h.shape.listPaths] at hlist
      obtain ⟨hattributes, hchildren⟩ :=
        (h.accepts.elements path element x hdescribes).text (by rw [hsimple]; rfl)
      exact InstanceShape.exists_arr_of_elementValue hvalue hattributes hchildren hlist
  | @typeName typeName hinline _ htypeName =>
      exact ⟨fits_of_standsFor h.registry hv (standsFor_namedSchema typeName)
        fun _ hfound => .named hinline htypeName hfound,
        fun harray => absurd harray (not_isArray_namedSchema h.typeMap typeName)⟩
  | untyped => exact ⟨.text .unconstrained, fun harray => nomatch harray⟩

/-! ## Steps of the walk -/

/-- A member of the content of an element fits its field in the value of the element. -/
theorem fits_member (h : c.Materializes document schema shape root)
    {fields : List (String × Json)} (hv : ValueOf schema shape root element (.obj fields))
    {m : Member} (hm : m ∈ element.contentMembers (Registry.ofSchema schema) {}) {name : String}
    (hname : nonempty? m.element.name? = some name) {names : OpenNames} {property : JsonSchema}
    (hproperty : presented m.element (c.options.isArrayMember m)
      (c.singleSchema? names m.element) = some property)
    (hfield : Fields.value? fields name = some v) :
    Fits c schema shape root property v ∧ (property.IsArray → ∃ values, v = .arr values) := by
  obtain ⟨path, x, hdescribes, hvalue⟩ := hv
  obtain ⟨values, hvalues, heq⟩ := exists_values_of_member h.document_schema h.orderly h.unbounded
    h.shape h.accepts hdescribes hvalue hm hname
  -- Every one of the values is that of a child that the member describes.
  have hvalueOf : ∀ value ∈ values, ValueOf schema shape root m.element value := by
    intro value hmem
    obtain ⟨y, hy, hyvalue⟩ := hvalues.exists_of_mem hmem
    exact ⟨path ++ [name], y, .child hdescribes hm hname hy, hyvalue⟩
  rw [hfield] at heq
  unfold presented at hproperty
  simp only [hname] at hproperty
  -- The conversion writes an array for the member exactly when the reading makes a list.
  cases harray : c.options.isArrayMember m with
  | true =>
      simp only [harray, if_true, Option.some.injEq] at hproperty heq
      split at heq
      · cases heq
      · cases heq
        subst hproperty
        refine ⟨.array fun value hmem => ?_, fun _ => ⟨values, rfl⟩⟩
        cases hsingle : c.singleSchema? names m.element with
        | none => exact .text .unconstrained
        | some single => exact (fits_singleSchema? h (hvalueOf value hmem) hsingle).1
  | false =>
      simp only [harray, Bool.false_eq_true, if_false] at hproperty heq
      exact fits_singleSchema? h (hvalueOf v (List.mem_of_head? heq.symm)) hproperty

/-- The top-level element of the root fits the value of the root. -/
theorem fits_root (h : c.Materializes document schema shape root)
    (hv : shape.elementValue root.name.localName root = .ok v) {property : JsonSchema}
    (hproperty : (c.schemaDocument {} schema).properties.value? root.name.localName =
      some property) :
    Fits c schema shape root property v ∧ (property.IsArray → ∃ values, v = .arr values) := by
  obtain ⟨element, helement, hname, hschema⟩ :=
    (value?_declaredRoots h.orderly.regular).1 hproperty
  have hv : ValueOf schema shape root element v :=
    ⟨[root.name.localName], root, .root helement hname, hv⟩
  unfold elementSchema? presented at hschema
  simp only [hname, Options.isArrayElement, Bool.false_and, Bool.or_false, Bool.false_eq_true,
    if_false] at hschema
  exact fits_singleSchema? h hv hschema

/-- A step to a property keeps to what a walk can come to. -/
theorem Fits.property (h : c.Materializes document schema shape root) {s property : JsonSchema}
    {fields : List (String × Json)} {name : String}
    (hfits : Fits c schema shape root s (.obj fields))
    (hproperty : s.properties.value? name = some property)
    (hv : Fields.value? fields name = some v) :
    Fits c schema shape root property v ∧ (property.IsArray → ∃ values, v = .arr values) := by
  cases hfits with
  | text htext =>
      rw [htext.properties_eq_nil h.typeMap] at hproperty
      cases hproperty
  | reference hstands =>
      rw [properties_eq_nil_of_textEntry (hstands.textEntry h.typeMap)] at hproperty
      cases hproperty
  | allOf => cases hproperty
  | object hearlier hdeclared hvalue =>
      rcases mem_declaredProperties (Fields.mem_of_value? hproperty) with hmem | ⟨d, hd, heq⟩
      · obtain ⟨-, htext, harray⟩ := hearlier _ hmem
        exact ⟨.text htext, fun h => absurd h harray⟩
      · obtain ⟨rfl, rfl⟩ := Prod.mk.inj heq
        cases hdeclared d hd with
        | member hm hname _ hschema => exact fits_member h hvalue hm hname hschema hv
        | attributeOf hincludes hextension hdeclaration _ _ _ hschema =>
            obtain ⟨path, x, hdescribes, -⟩ := hvalue
            obtain ⟨htext, harray⟩ := isText_attributeSchema? h.typeMap h.registry
              h.orderly.texts_simple (hincludes.contains hdescribes.contains) hextension
              hdeclaration hschema
            exact ⟨.text htext, fun h => absurd h harray⟩
  | document hroot =>
      unfold Fields.value? at hv
      split at hv
      · rename_i heq
        cases hv
        cases heq
        exact fits_root h hroot hproperty
      · cases hv

theorem value?_schemaDocument_eq_none {keyword : String}
    (h : keyword ∉ ["$schema", "type", "properties", "required", "definitions", "$defs"]) :
    (c.schemaDocument {} schema).value? keyword = none := by
  have hkey : c.options.dialect.definitionsKey ∈ ["definitions", "$defs"] := by
    cases c.options.dialect <;> decide
  apply value?_eq_none
  intro entry hentry heq
  subst heq
  simp only [schemaDocument, keywords, List.mem_cons, List.not_mem_nil, or_false] at hentry h hkey
  rcases hentry with rfl | rfl | rfl | rfl | rfl <;> simp_all

theorem Fits.branch {s branch : JsonSchema}
    (hfits : Fits c schema shape root s v) (hbranch : branch ∈ s.branches) :
    Fits c schema shape root branch v := by
  cases hfits with
  | text htext => exact .text (htext.of_mem_branches hbranch)
  | reference hstands =>
      rw [hstands.branches_eq_nil] at hbranch
      cases hbranch
  | allOf hbranches => exact hbranches branch hbranch
  | object => cases hbranch
  | array =>
      rw [branches_array] at hbranch
      cases hbranch
  | document =>
      rw [branches, value?_schemaDocument_eq_none (by decide)] at hbranch
      cases hbranch

/-- A step to a definition comes to the content of the type that describes the element. -/
theorem Fits.reference? (h : c.Materializes document schema shape root)
    {s definition : JsonSchema} (hfits : Fits c schema shape root s v) {name : String}
    (href : s.reference? = some (c.options.dialect.reference name))
    (hdefinition : (c.definitions {} schema).value? name = some definition) :
    Fits c schema shape root definition v := by
  cases hfits with
  | text htext =>
      refine .text (htext.of_reference? h.typeMap h.registry ?_ href hdefinition)
      intro type htype found hfound
      exact isText_simpleTypeSchema? h.registry h.orderly.texts_simple (.top htype) hfound
  | reference hstands htype hincludes hv =>
      -- The name is that of a type of the element, and complex types win over simple ones.
      rw [← h.registry] at htype
      rw [hstands.eq_of_reference? h.typeMap href, value?_definitions h.registry, htype] at hdefinition
      cases hdefinition
      rw [complexTypeSchema_definition h.registry htype]
      exact fits_contentSchema h hv hincludes _
  | allOf => cases href
  | object => cases href
  | array =>
      rw [reference?_array] at href
      cases href
  | document =>
      rw [JsonSchema.reference?, value?_schemaDocument_eq_none (by decide)] at href
      cases href

theorem Fits.item (h : c.Materializes document schema shape root) {s items : JsonSchema}
    {values : List Json} (hfits : Fits c schema shape root s (.arr values))
    (hitems : s.items? = some items) (hv : v ∈ values) : Fits c schema shape root items v := by
  cases hfits with
  | text htext => exact .text (htext.of_items? h.typeMap hitems)
  | reference hstands =>
      rw [items?_eq_none_of_textEntry (hstands.textEntry h.typeMap)] at hitems
      cases hitems
  | allOf => cases hitems
  | object => cases hitems
  | array hvalues =>
      rw [items?_array, Option.some.injEq] at hitems
      exact hitems ▸ hvalues v hv

/-- **A walk keeps to the schemas and values that fit.** -/
theorem Fits.of_meets (h : c.Materializes document schema shape root) {w : Json}
    (hw : shape.elementValue root.name.localName root = .ok w) {s : JsonSchema}
    (hmeets : Meets c.options.dialect (c.schemaDocument {} schema)
      (.obj [(root.name.localName, w)]) s v) :
    Fits c schema shape root s v := by
  induction hmeets with
  | start => exact .document hw
  | reference _ href hdefinition ih =>
      rw [definitionsIn_schemaDocument] at hdefinition
      exact ih.reference? h href hdefinition
  | branch _ hbranch ih => exact ih.branch hbranch
  | property _ hproperty hv ih => exact (ih.property h hproperty hv).1
  | item _ hitems hv ih => exact ih.item h hitems hv

end Conversion

end SchemaBridge
