import SchemaBridge.Proofs.Instance.JointWalk
import SchemaBridge.Proofs.Paths.Consistency

/-!
# Values conform to converted schemas

An instance document is read with the paths of a schema document, and its value is compared with the
converted schema. Lists stand where the schema has arrays, and where it has the object of a type the
value is that of an element with the type (`InstanceShape.ConformsTo`,
`Document.values_follow_schema`).

Not every such element is an object. One without attributes and children is its text, and an element
without text has no field for it, so required names can be missing there. They are missing nowhere
else, apart from the object of the whole document, which has one of the top-level elements and
requires all of them. So the value need not have an object for every object schema, nor all required
names in it (`basketDocument_not_conforms`).

The schemas are orderly: contents declare a name once with everything that bases add, paths spell one
chain of names each, and texts have simple types. Otherwise an object schema can be met with a list or
a text even where the element is an object (`tangledDocument_not_conforms`).
-/

set_option autoImplicit false

namespace SchemaBridge

open Xsd JsonSchema

namespace JsonSchema

/-- A property with an array schema has a list as its value, wherever a walk comes to it. -/
def ListsMeetArrays (dialect : Dialect) (output : JsonSchema) (value : Json) : Prop :=
  ∀ schema fields name property v, Meets dialect output value schema (.obj fields) →
    schema.properties.value? name = some property → Fields.value? fields name = some v →
    property.IsArray → ∃ values, v = .arr values

/-- Every object schema to which a walk comes has an object with all required names for its value, and
every property with an array schema a list. -/
structure Conforms (dialect : Dialect) (output : JsonSchema) (value : Json) : Prop where
  objects : ∀ schema v, Meets dialect output value schema v → schema.IsObject →
    ∃ fields, v = .obj fields ∧ ∀ name ∈ schema.required, (Fields.value? fields name).isSome
  arrays : ListsMeetArrays dialect output value

end JsonSchema

/-- What an object schema says of the value of an element. An element with an attribute or a child is
an object with every required name, that of its text excepted when it has none. An element with
neither is no object but its text. -/
structure InstanceShape.Fills (shape : InstanceShape) (path : String) (x : Xml.Element)
    (schema : JsonSchema) (v : Json) : Prop where
  value : shape.elementValue path x = .ok v
  object : x.attributes ≠ [] ∨ x.children ≠ [] → ∃ fields, v = .obj fields ∧
    ∀ name ∈ schema.required, (name = textKey → ownText x.content ≠ []) →
      (Fields.value? fields name).isSome
  text : x.attributes = [] → x.children = [] →
    shape.textValue path (ownText x.content) = .ok v ∧ ∀ fields, v ≠ .obj fields

/-- The value of an instance conforms to a schema document element by element. The object of the whole
document has the root element alone, and only top-level elements are required of it; every other object
schema to which a walk comes is filled by the value of an element of the instance. -/
structure InstanceShape.ConformsTo (shape : InstanceShape) (schema : Schema) (dialect : Dialect)
    (output : JsonSchema) (root : Xml.Element) (value : Json) : Prop where
  document : ∃ v, value = .obj [(root.name.localName, v)]
  required : ∀ name ∈ output.required, ∃ element ∈ schema.elements,
    nonempty? element.name? = some name
  objects : ∀ s v, Meets dialect output value s v → s.IsObject → (s = output ∧ v = value) ∨
    ∃ path element x, schema.Describes root path element x ∧ shape.Fills (joinedPath path) x s v
  arrays : ListsMeetArrays dialect output value

namespace Conversion

variable {c : Conversion} {document : Document} {schema : Schema} {shape : InstanceShape}
  {root : Xml.Element} {element : Element} {v : Json}

/-! ## Object schemas -/

/-- **The object of a type is filled by the value of an element** that the type describes. -/
theorem fills_object (h : c.Materializes document schema shape root) {path : List String}
    {x : Xml.Element} (hdescribes : schema.Describes root path element x)
    (hvalue : shape.elementValue (joinedPath path) x = .ok v) {earlier : Fields JsonSchema}
    {declared : List Declared}
    (hearlier : ∀ entry ∈ earlier, entry.1 = InstanceShape.textKey)
    (hdeclared : ∀ d ∈ declared, DeclaredIn c schema element d) :
    shape.Fills (joinedPath path) x
      (.object (declaredProperties earlier declared)
        (declaredRequired (Fields.names earlier) declared)) v where
  value := hvalue
  text hattributes hchildren :=
    ⟨InstanceShape.textValue_of_elementValue hvalue hattributes hchildren,
      InstanceShape.ne_obj_of_elementValue hvalue hattributes hchildren⟩
  object hparts := by
    obtain ⟨fields, rfl, hattributes, htext, -⟩ :=
      InstanceShape.exists_fields_of_elementValue hvalue hparts
    refine ⟨fields, rfl, fun name hname hblank => ?_⟩
    -- A required name is that of text, of a member that is present, or of a required attribute.
    rcases mem_declaredRequired.1 hname with hname | ⟨d, hd, hrequired, rfl⟩
    · obtain ⟨entry, hentry, rfl⟩ := List.mem_map.1 hname
      rw [hearlier entry hentry]
      exact htext (hblank (hearlier entry hentry))
    · have haccepts := h.accepts.elements path element x hdescribes
      cases hdeclared d hd with
      | member hm hname hpresent =>
          obtain ⟨hoptional, hoccurs⟩ := hpresent hrequired
          obtain ⟨values, hvalues, hfield⟩ := exists_values_of_member h.document_schema h.orderly
            h.unbounded h.shape h.accepts hdescribes hvalue hm hname
          have hne : values ≠ [] := fun hnil =>
            haccepts.present _ hm _ hname hoptional hoccurs (hvalues.eq_nil_iff.1 hnil)
          rw [hfield, if_neg hne]
          split
          · rfl
          · exact List.isSome_head?.2 hne
      | attributeOf hincludes hextension hdeclaration hname hd hequal =>
          obtain ⟨a, ha, hlocal⟩ := haccepts.attributes _ _ _ _ hincludes hextension hdeclaration
            (hequal.symm.trans hrequired) hname
          rw [hd, ← hlocal]
          exact hattributes a ha

/-- Where a walk comes to an object schema, the schema is the document or that of an element. -/
theorem Fits.exists_fills (h : c.Materializes document schema shape root) {w : Json}
    (hw : shape.elementValue root.name.localName root = .ok w) {s : JsonSchema}
    (hfits : Fits c schema shape root s v) (hobject : s.IsObject) :
    (s = c.schemaDocument {} schema ∧ v = .obj [(root.name.localName, w)]) ∨
      ∃ path element x, schema.Describes root path element x ∧
        shape.Fills (joinedPath path) x s v := by
  cases hfits with
  | text htext => exact absurd hobject (htext.not_isObject h.typeMap)
  | reference hstands =>
      exact absurd hobject (not_isObject_of_textEntry (hstands.textEntry h.typeMap))
  | allOf => cases hobject
  | object hearlier hdeclared hv =>
      obtain ⟨path, x, hdescribes, hvalue⟩ := hv
      exact Or.inr ⟨path, _, x, hdescribes, fills_object h hdescribes hvalue
        (fun entry hentry => (hearlier entry hentry).1) hdeclared⟩
  | array => exact absurd hobject not_isObject_array
  | document hv =>
      cases hw.symm.trans hv
      exact Or.inl ⟨rfl, rfl⟩

/-- A schema document requires top-level elements only. -/
theorem exists_element_of_mem_required {name : String}
    (h : name ∈ (c.schemaDocument {} schema).required) :
    ∃ element ∈ schema.elements, nonempty? element.name? = some name := by
  have hnames : (c.schemaDocument {} schema).required =
      declaredRequired [] (c.declaredRoots {} schema) := rfl
  rw [hnames, mem_declaredRequired] at h
  rcases h with h | ⟨d, hd, -, rfl⟩
  · cases h
  · obtain ⟨element, helement, hd⟩ := List.mem_filterMap.1 hd
    obtain ⟨s, hs, rfl⟩ := Option.map_eq_some_iff.1 hd
    obtain ⟨name, hname⟩ := exists_name_of_presented hs
    exact ⟨element, helement, by rw [hname, nonempty?_getD hname]⟩

end Conversion

namespace Xsd.Document

variable {document : Document} {schema : Schema} {options : Options} {reading : ReadingOptions}
  {root : Xml.Element}

/-- **The value of a valid instance follows the converted schema.** For an orderly schema without type
mappings, with arrays for unbounded elements, the document has a converted schema, and reading a valid
instance with the paths of the document fails only at a whole number with too many digits. Otherwise
the value conforms: lists stand where the schema has arrays; and where it has an object, the value is
that of an element, an object with all required names if the element has attributes or children and
text where text is required, and the element's text if it has neither. -/
theorem values_follow_schema (hschema : document.schema? = some schema)
    (horderly : schema.Orderly) (hmappings : options.typeMappings = [])
    (hunbounded : options.treatUnboundedAsArray = true) (hreading : reading.Follows document options)
    (haccepts : schema.Accepts root) :
    ∃ output, convertWith options document = .ok output ∧
      (readInstance reading (.ok root) = .error .integerTooLong ∨
        ∃ value, readInstance reading (.ok root) = .ok value ∧
          (reading.shapeFrom document options).ConformsTo schema options.dialect output root
            (.obj value)) := by
  have hshape := hreading.shape_eq
  have hfollows := reading.follows_shapeFrom document options
  generalize reading.shapeFrom document options = shape at hshape hfollows ⊢
  obtain ⟨element, helement, -⟩ := haccepts.declared
  have houtput : convertWith options document =
      .ok ((Conversion.ofDocument options document).schemaDocument {} schema) :=
    convertWith_eq_ok_iff.2 ⟨schema, hschema, List.ne_nil_of_mem helement, rfl⟩
  refine ⟨_, houtput, ?_⟩
  have h : (Conversion.ofDocument options document).Materializes document schema shape root :=
    { document_schema := hschema
      registry := registry_ofDocument options hschema
      typeMap := typeMap_ofDocument hmappings
      unbounded := hunbounded
      orderly := horderly
      shape := hfollows
      accepts := haccepts }
  cases hw : shape.elementValue root.name.localName root with
  | error failure =>
      -- The value of the root is the only thing that can fail, and for one reason.
      rw [InstanceShape.elementValue_error _ root hw] at hw
      refine Or.inl ?_
      simp only [readInstance, hshape, InstanceShape.treeValue, hw, bind, Except.bind]
  | ok w =>
      refine Or.inr ⟨[(root.name.localName, w)], ?_, ⟨w, rfl⟩,
        fun name => Conversion.exists_element_of_mem_required, fun s v hmeets hobject => ?_,
        fun s fields name property v hmeets hproperty hv => ?_⟩
      · simp only [readInstance, hshape, InstanceShape.treeValue, hw, bind, Except.bind, pure,
          Except.pure]
      · exact (Conversion.Fits.of_meets h hw hmeets).exists_fills h hw hobject
      · exact ((Conversion.Fits.of_meets h hw hmeets).property h hproperty hv).2

/-! ## The value of a basket -/

/-- The value of the empty label. -/
def basketLabelValue : Json := .obj [("@_lang", .str "en")]

/-- The value of the instance: the empty item is a text. -/
def basketValue : Fields Json :=
  [("basket", .obj [("item", .arr [.str "", .obj [("label", basketLabelValue)]])])]

/-- The schema of items. -/
def itemSchema : JsonSchema := .object [("label", .reference "#/$defs/Label")] []

/-- The schema of labels. -/
def labelSchema : JsonSchema :=
  .object [("#text", .node [("type", .text "string")]), ("@_lang", .node [("type", .text "string")])]
    ["#text"]

/-- The schema of the basket. -/
def basketObject : JsonSchema :=
  .object [("item", .array none (.reference "#/$defs/Item"))] ["item"]

/-- The schema of the document. -/
def basketOutput : JsonSchema :=
  .node [("$schema", .text Dialect.draft202012.schemaUri), ("type", .text "object"),
    ("properties", .named [("basket", basketObject)]), ("required", .names ["basket"]),
    ("$defs", .named [("Item", itemSchema), ("Label", labelSchema)])]

/-- The document is read with the options with which it is converted. -/
def basketReading : ReadingOptions :=
  { schema? := some basketDocument
    convertOptions? := some [("treat_unbounded_as_array", .bool true)] }

theorem convertWith_basketDocument :
    convertWith unboundedAsArrays basketDocument = .ok basketOutput := by
  have hwithin : (Conversion.ofDocument unboundedAsArrays basketDocument).emitWithin 40 {}
      basketDocument = some (.ok basketOutput) := rfl
  exact convertWith_eq_of_emitWithin hwithin (by decide)

theorem basketReading_follows : basketReading.Follows basketDocument unboundedAsArrays where
  schema := rfl
  no_arrayPaths := rfl
  no_listPaths := rfl
  options := ⟨_, rfl, rfl⟩

theorem arrayPaths_basketDocument :
    basketDocument.arrayPaths unboundedAsArrays = ["basket.item"] := by
  have hcollect : Collector.collectWithin 20
      { kind := .arrays unboundedAsArrays, registry := Registry.ofSchema basketSchema } basketSchema =
      some { kind := .arrays unboundedAsArrays, registry := Registry.ofSchema basketSchema,
             paths := ["basket.item"] } := rfl
  have hschema : basketDocument.schema? = some basketSchema := rfl
  exact find_eq_of_collectWithin hschema (by decide) hcollect

theorem listPaths_basketDocument : deriveListPaths basketDocument = [] := by
  have hcollect : Collector.collectWithin 20
      { kind := .lists, registry := Registry.ofSchema basketSchema } basketSchema =
      some { kind := .lists, registry := Registry.ofSchema basketSchema } := rfl
  have hschema : basketDocument.schema? = some basketSchema := rfl
  exact find_eq_of_collectWithin hschema (by decide) hcollect

theorem readInstance_basketRoot :
    readInstance basketReading (.ok basketRoot) = .ok basketValue := by
  have hshape := basketReading_follows.shape_eq
  rw [ReadingOptions.shapeFrom, arrayPaths_basketDocument, listPaths_basketDocument] at hshape
  simp only [readInstance, hshape, bind, Except.bind]
  rfl

/-- The value of the basket conforms to the schema, element by element. -/
theorem values_follow_schema_basketDocument :
    basketDocument.schema? = some basketSchema ∧ basketSchema.Orderly ∧
      unboundedAsArrays.typeMappings = [] ∧ unboundedAsArrays.treatUnboundedAsArray = true ∧
      basketReading.Follows basketDocument unboundedAsArrays ∧ basketSchema.Accepts basketRoot ∧
      readInstance basketReading (.ok basketRoot) = .ok basketValue ∧
      (basketReading.shapeFrom basketDocument unboundedAsArrays).ConformsTo basketSchema .draft202012
        basketOutput basketRoot (.obj basketValue) := by
  refine ⟨rfl, basketSchema_orderly, rfl, rfl, basketReading_follows, basketSchema_accepts,
    readInstance_basketRoot, ?_⟩
  have hfollow := values_follow_schema rfl basketSchema_orderly rfl rfl basketReading_follows
    basketSchema_accepts
  obtain ⟨output, houtput, h⟩ := hfollow
  cases convertWith_basketDocument.symm.trans houtput
  rcases h with h | ⟨value, hvalue, h⟩
  · rw [readInstance_basketRoot] at h
    cases h
  · cases readInstance_basketRoot.symm.trans hvalue
    exact h

/-- **Object schemas whose values fall short of them**: the empty item is a text, although the type
of items is written as an object, and the empty label has no field for its text, although the type of
labels asks for one. -/
theorem basketDocument_not_conforms :
    basketDocument.schema? = some basketSchema ∧ basketSchema.Orderly ∧
      unboundedAsArrays.typeMappings = [] ∧ unboundedAsArrays.treatUnboundedAsArray = true ∧
      basketReading.Follows basketDocument unboundedAsArrays ∧ basketSchema.Accepts basketRoot ∧
      convertWith unboundedAsArrays basketDocument = .ok basketOutput ∧
      readInstance basketReading (.ok basketRoot) = .ok basketValue ∧
      Meets .draft202012 basketOutput (.obj basketValue) itemSchema (.str "") ∧
      Meets .draft202012 basketOutput (.obj basketValue) labelSchema basketLabelValue ∧
      ¬ Conforms .draft202012 basketOutput (.obj basketValue) := by
  -- From the basket to the array of items.
  have hstart : Meets .draft202012 basketOutput (.obj basketValue) basketOutput
      (.obj basketValue) := .start
  have hproperty : basketOutput.properties.value? "basket" = some basketObject := rfl
  have hbasket := hstart.property hproperty rfl
  have hproperty : basketObject.properties.value? "item" =
      some (.array none (.reference "#/$defs/Item")) := rfl
  have hitems := hbasket.property hproperty rfl
  -- Every item is met with the definition of their type.
  have hreference : (reference "#/$defs/Item").reference? =
      some (Dialect.draft202012.reference "Item") := rfl
  have hempty := (hitems.item rfl (List.mem_cons_self ..)).reference hreference rfl
  have hlabelled := (hitems.item rfl (List.mem_cons_of_mem _ (List.mem_cons_self ..))).reference
    hreference rfl
  have hproperty : itemSchema.properties.value? "label" =
      some (.reference "#/$defs/Label") := rfl
  have hreference : (reference "#/$defs/Label").reference? =
      some (Dialect.draft202012.reference "Label") := rfl
  have hlabel := (hlabelled.property hproperty rfl).reference hreference rfl
  refine ⟨rfl, basketSchema_orderly, rfl, rfl, basketReading_follows, basketSchema_accepts,
    convertWith_basketDocument, readInstance_basketRoot, hempty, hlabel, fun h => ?_⟩
  obtain ⟨fields, hfields, -⟩ := h.objects _ _ hempty rfl
  cases hfields

/-! ## What orderly schemas leave out -/

/-- Any number of elements. -/
def anyNumber : Occurs := { min? := some 0, max? := some "unbounded" }

/-- A text with an attribute. -/
def amountType : ComplexType :=
  { name? := some "Amount"
    simpleContent? := some
      { base? := some "xs:string"
        attributes := [{ name? := some "unit", typeName? := some "xs:string" }] } }

/-- A text whose base is the complex type of amounts. -/
def priceType : ComplexType :=
  { name? := some "Price", simpleContent? := some { base? := some "Amount" } }

/-- An element of the type of prices. -/
def priceElement (name : String) (occurs : Occurs) : Element :=
  { name? := some name, typeName? := some "Price", occurs }

/-- A type with one price. -/
def offerType : ComplexType :=
  { name? := some "Offer", sequence? := some { elements := [priceElement "price" {}] } }

/-- The type of parts, with a price as well. -/
def partType : ComplexType := { sequence? := some { elements := [priceElement "price" {}] } }

/-- A part with a price of its own. -/
def partElement : Element := { name? := some "part", complexType? := some partType }

/-- An element with a point in its name. -/
def pointElement : Element :=
  { name? := some "part.price", typeName? := some "xs:string", occurs := anyNumber }

/-- What an offer adds to its base: more prices, and two elements that spell one path. -/
def tangledSequence : Sequence :=
  { elements := [priceElement "price" anyNumber, partElement, pointElement] }

/-- The type of the element of offers. -/
def tangledType : ComplexType :=
  { complexContent? := some { base? := some "Offer", sequence? := some tangledSequence } }

/-- The element of offers. -/
def tangledElement : Element := { name? := some "offer", complexType? := some tangledType }

/-- A schema that is regular and no more. -/
def tangledSchema : Schema :=
  { elements := [tangledElement, partElement], complexTypes := [amountType, priceType, offerType] }

/-- A document with that schema. -/
def tangledDocument : Document := { schema? := some tangledSchema }

/-- A price with a unit. -/
def unitPrice : Xml.Element :=
  { name := { localPart := "price" }, attributes := [({ localPart := "unit" }, "EUR")]
    content := [.text "few"] }

/-- A price without one. -/
def plainPrice : Xml.Element := { name := { localPart := "price" }, content := [.text "none"] }

/-- A part with a price. -/
def pricedPart : Xml.Element :=
  { name := { localPart := "part" }, content := [.element plainPrice] }

/-- An instance: an offer with one price and a part with one price. -/
def tangledRoot : Xml.Element :=
  { name := { localPart := "offer" }, content := [.element unitPrice, .element pricedPart] }

/-- The value of the price with a unit. -/
def unitPriceValue : Json := .obj [("@_unit", .str "EUR"), ("#text", .str "few")]

/-- The value of the instance: both prices are in lists. -/
def tangledValue : Fields Json :=
  [("offer", .obj [("price", .arr [unitPriceValue]),
    ("part", .obj [("price", .arr [.str "none"])])])]

/-- The schema of prices. -/
def priceSchema : JsonSchema := .object [("#text", .reference "#/$defs/Amount")] ["#text"]

/-- The schema of amounts. -/
def amountSchema : JsonSchema :=
  .object [("#text", .node [("type", .text "string")]), ("@_unit", .node [("type", .text "string")])]
    ["#text"]

/-- The schema of a type with one price. -/
def onePriceSchema : JsonSchema := .object [("price", .reference "#/$defs/Price")] ["price"]

/-- The schema of what an offer adds to its base. -/
def tangledObject : JsonSchema :=
  .object
    [("price", .array none (.reference "#/$defs/Price")),
      ("part", onePriceSchema),
      ("part.price", .array none (.node [("type", .text "string")]))]
    ["part"]

/-- The schema of the document. -/
def tangledOutput : JsonSchema :=
  .node [("$schema", .text Dialect.draft202012.schemaUri), ("type", .text "object"),
    ("properties", .named [("offer", .allOf [.reference "#/$defs/Offer", tangledObject]),
      ("part", onePriceSchema)]),
    ("required", .names ["offer", "part"]),
    ("$defs", .named [("Amount", amountSchema), ("Price", priceSchema),
      ("Offer", onePriceSchema)])]

/-- The document is read with the options with which it is converted. -/
def tangledReading : ReadingOptions :=
  { schema? := some tangledDocument
    convertOptions? := some [("treat_unbounded_as_array", .bool true)] }

theorem convertWith_tangledDocument :
    convertWith unboundedAsArrays tangledDocument = .ok tangledOutput := by
  have hwithin : (Conversion.ofDocument unboundedAsArrays tangledDocument).emitWithin 80 {}
      tangledDocument = some (.ok tangledOutput) := rfl
  exact convertWith_eq_of_emitWithin hwithin (by decide)

theorem tangledReading_follows : tangledReading.Follows tangledDocument unboundedAsArrays where
  schema := rfl
  no_arrayPaths := rfl
  no_listPaths := rfl
  options := ⟨_, rfl, rfl⟩

theorem readInstance_tangledRoot :
    readInstance tangledReading (.ok tangledRoot) = .ok tangledValue := by
  have harrays : Collector.collectWithin 40
      { kind := .arrays unboundedAsArrays, registry := Registry.ofSchema tangledSchema }
      tangledSchema =
      some { kind := .arrays unboundedAsArrays, registry := Registry.ofSchema tangledSchema,
             paths := ["offer.price", "offer.part.price"] } := rfl
  have hlists : Collector.collectWithin 40
      { kind := .lists, registry := Registry.ofSchema tangledSchema } tangledSchema =
      some { kind := .lists, registry := Registry.ofSchema tangledSchema } := rfl
  have hschema : tangledDocument.schema? = some tangledSchema := rfl
  have harrays : tangledDocument.arrayPaths unboundedAsArrays =
      ["offer.price", "offer.part.price"] := find_eq_of_collectWithin hschema (by decide) harrays
  have hlists : deriveListPaths tangledDocument = [] :=
    find_eq_of_collectWithin hschema (by decide) hlists
  have hshape := tangledReading_follows.shape_eq
  rw [ReadingOptions.shapeFrom, harrays, hlists] at hshape
  simp only [readInstance, hshape, bind, Except.bind]
  rfl

/-- The declarations of the schema. -/
def IsTangled : Component → Prop
  | .element element => element ∈
      [tangledElement, partElement, priceElement "price" {}, priceElement "price" anyNumber,
        pointElement]
  | .complexType type => type ∈ [tangledType, partType, offerType, priceType, amountType]
  | .sequence sequence => sequence ∈ [{ elements := [priceElement "price" {}] }, tangledSequence]

theorem isTangled_of_contains {component : Component} (h : tangledSchema.Contains component) :
    IsTangled component := by
  induction h with
  | element helement => rcases List.mem_pair.1 helement with rfl | rfl <;> simp [IsTangled]
  | complexType htype =>
      simp only [tangledSchema, List.mem_cons, List.not_mem_nil, or_false] at htype
      rcases htype with rfl | rfl | rfl <;> simp [IsTangled]
  | group hgroup => cases hgroup
  | inline _ htype ih =>
      simp only [IsTangled, List.mem_cons, List.not_mem_nil, or_false] at ih
      rcases ih with rfl | rfl | rfl | rfl | rfl <;> cases htype <;> simp [IsTangled]
  | own _ hsequence ih =>
      simp only [IsTangled, List.mem_cons, List.not_mem_nil, or_false] at ih
      rcases ih with rfl | rfl | rfl | rfl | rfl <;> cases hsequence <;> simp [IsTangled]
  | extension _ hextension hsequence ih =>
      simp only [IsTangled, List.mem_cons, List.not_mem_nil, or_false] at ih
      rcases ih with rfl | rfl | rfl | rfl | rfl <;> cases hextension
      cases hsequence
      simp [IsTangled]
  | member _ helement ih =>
      simp only [IsTangled, List.mem_cons, List.not_mem_nil, or_false] at ih
      rcases ih with rfl | rfl
      · rw [List.mem_singleton.1 helement]
        simp [IsTangled]
      · simp only [tangledSequence, List.mem_cons, List.not_mem_nil, or_false] at helement
        rcases helement with rfl | rfl | rfl <;> simp [IsTangled]

theorem tangledSchema_regular : tangledSchema.Regular where
  one_content type h := by
    have htype := isTangled_of_contains h
    simp only [IsTangled, List.mem_cons, List.not_mem_nil, or_false] at htype
    rcases htype with rfl | rfl | rfl | rfl | rfl <;> decide
  inline_unnamed element type h htype := by
    have helement := isTangled_of_contains h
    simp only [IsTangled, List.mem_cons, List.not_mem_nil, or_false] at helement
    rcases helement with rfl | rfl | rfl | rfl | rfl <;> cases htype <;> rfl
  one_type element h := by
    have helement := isTangled_of_contains h
    simp only [IsTangled, List.mem_cons, List.not_mem_nil, or_false] at helement
    rcases helement with rfl | rfl | rfl | rfl | rfl <;> decide
  members_distinct type sequence h hsequence := by
    have htype := isTangled_of_contains h
    simp only [IsTangled, List.mem_cons, List.not_mem_nil, or_false] at htype
    rcases htype with rfl | rfl | rfl | rfl | rfl <;> cases hsequence <;>
      rw [Sequence.members_of_groups_eq_nil rfl] <;> decide
  roots_distinct := by decide
  not_builtin type h name hname := by
    simp only [tangledSchema, List.mem_cons, List.not_mem_nil, or_false] at h
    rcases h with rfl | rfl | rfl <;> cases hname <;> decide

/-- A price has text and no content. -/
theorem not_priceElement_declares {name : String} {occurs : Occurs} {inner : Element}
    {entries : List Entry} {repeats : Bool} :
    ¬ (priceElement name occurs).Declares (Registry.ofSchema tangledSchema) entries repeats
      inner := by
  intro h
  cases h with
  | inline htype => cases htype
  | named _ hname htype hdecl =>
      cases hname
      cases htype
      exact ComplexType.not_declares rfl rfl hdecl

/-- The only elements with content are the offer and the part, and the only type that is
entered is that of offers. -/
theorem of_tangledSchema_declares {outer inner : Element} {entries : List Entry} {repeats : Bool}
    (houter : tangledSchema.Contains (.element outer))
    (h : outer.Declares (Registry.ofSchema tangledSchema) entries repeats inner) :
    (outer = tangledElement ∨ outer = partElement) ∧
      (entries = [] ∨ entries = [(.complexType, "Offer")] ∧ inner = priceElement "price" {}) := by
  have houter := isTangled_of_contains houter
  simp only [IsTangled, List.mem_cons, List.not_mem_nil, or_false] at houter
  rcases houter with rfl | rfl | rfl | rfl | rfl
  · refine ⟨Or.inl rfl, ?_⟩
    cases h with
    | inline htype hdecl =>
        cases htype
        cases hdecl with
        | own hsequence => cases hsequence
        | extension hextension hsequence hdecl =>
            cases hextension
            cases hsequence
            obtain ⟨-, rfl, -⟩ := (Sequence.declares_iff_of_groups_eq_nil rfl).1 hdecl
            exact Or.inl rfl
        | base hextension hname hbase hdecl =>
            cases hextension
            cases hname
            cases hbase
            obtain ⟨hmem, rfl, -⟩ := hdecl.of_plain rfl rfl rfl
            exact Or.inr ⟨rfl, List.mem_singleton.1 hmem⟩
    | named hinline => cases hinline
  · obtain ⟨-, rfl, -⟩ := h.of_plain rfl rfl rfl rfl
    exact ⟨Or.inr rfl, Or.inl rfl⟩
  · exact absurd h not_priceElement_declares
  · exact absurd h not_priceElement_declares
  · cases h with
    | inline htype => cases htype
    | named _ hname htype =>
        cases hname
        cases htype

theorem tangledSchema_acyclic : tangledSchema.Acyclic := by
  intro path entries element inSequence repeats h
  have hentries : (entries = [] ∨ entries = [(.complexType, "Offer")]) ∧
      (element = tangledElement ∨ element = partElement → entries = []) := by
    induction h with
    | root => exact ⟨Or.inl rfl, fun _ => rfl⟩
    | next hchain hdecl _ ih =>
        obtain ⟨houter, hbelow⟩ := of_tangledSchema_declares hchain.contains hdecl
        rw [ih.2 houter, List.nil_append]
        rcases hbelow with rfl | ⟨rfl, rfl⟩
        · exact ⟨Or.inl rfl, fun _ => rfl⟩
        · refine ⟨Or.inr rfl, fun hcontent => ?_⟩
          rcases hcontent with heq | heq <;> cases congrArg Element.complexType? heq
  rcases hentries.1 with rfl | rfl <;> decide

theorem contentMembers_tangledElement :
    tangledElement.contentMembers (Registry.ofSchema tangledSchema) {} =
      [⟨priceElement "price" anyNumber, {}, false, false⟩, ⟨partElement, {}, false, false⟩,
        ⟨pointElement, {}, false, false⟩,
        ⟨priceElement "price" {}, ({} : OpenNames).push .complexType "Offer", false, false⟩] := by
  have henter : (Registry.ofSchema tangledSchema).enterComplexType? {} (some "Offer") =
      some (({} : OpenNames).push .complexType "Offer", offerType) := rfl
  have hentered : tangledElement.contentMembers (Registry.ofSchema tangledSchema) {} =
      tangledType.enteredMembers (Registry.ofSchema tangledSchema) {} := rfl
  rw [hentered, ComplexType.enteredMembers_eq]
  simp only [tangledType, henter]
  rw [ComplexType.enteredMembers_eq]
  simp only [offerType, tangledSequence, Sequence.optionalMembers,
    Sequence.members_of_groups_eq_nil]
  rfl

theorem contentMembers_partElement :
    partElement.contentMembers (Registry.ofSchema tangledSchema) {} =
      [⟨priceElement "price" {}, {}, false, false⟩] := by
  have hentered : partElement.contentMembers (Registry.ofSchema tangledSchema) {} =
      partType.enteredMembers (Registry.ofSchema tangledSchema) {} := rfl
  rw [hentered, ComplexType.enteredMembers_eq]
  simp only [partType, Sequence.optionalMembers, Sequence.members_of_groups_eq_nil]
  rfl

theorem contentMembers_priceElement (name : String) (occurs : Occurs) :
    (priceElement name occurs).contentMembers (Registry.ofSchema tangledSchema) {} = [] := by
  have hentered : (priceElement name occurs).contentMembers (Registry.ofSchema tangledSchema) {} =
      priceType.enteredMembers (Registry.ofSchema tangledSchema)
        (({} : OpenNames).push .complexType "Price") := rfl
  rw [hentered, ComplexType.enteredMembers_eq]
  rfl

theorem eq_of_tangledSchema_describes {path : List String} {element : Element} {x : Xml.Element}
    (h : tangledSchema.Describes tangledRoot path element x) :
    (element = tangledElement ∧ x = tangledRoot) ∨ (element = partElement ∧ x = pricedPart) ∨
      ∃ occurs, element = priceElement "price" occurs ∧ (x = unitPrice ∨ x = plainPrice) := by
  induction h with
  | root helement hname =>
      rcases List.mem_pair.1 helement with rfl | rfl
      · exact Or.inl ⟨rfl, rfl⟩
      · have hne : nonempty? partElement.name? ≠ some tangledRoot.name.localName := by decide
        exact absurd hname hne
  | child _ hm hname hy ih =>
      rcases ih with ⟨rfl, rfl⟩ | ⟨rfl, rfl⟩ | ⟨occurs, rfl, -⟩
      · rw [contentMembers_tangledElement] at hm
        simp only [List.mem_cons, List.not_mem_nil, or_false] at hm
        have hprices : Xml.named "price" tangledRoot.children = [unitPrice] := rfl
        have hparts : Xml.named "part" tangledRoot.children = [pricedPart] := rfl
        rcases hm with rfl | rfl | rfl | rfl <;> cases hname
        · rw [hprices, List.mem_singleton] at hy
          exact Or.inr (Or.inr ⟨_, rfl, Or.inl hy⟩)
        · rw [hparts, List.mem_singleton] at hy
          exact Or.inr (Or.inl ⟨rfl, hy⟩)
        · cases hy
        · rw [hprices, List.mem_singleton] at hy
          exact Or.inr (Or.inr ⟨_, rfl, Or.inl hy⟩)
      · rw [contentMembers_partElement, List.mem_singleton] at hm
        subst hm
        cases hname
        have hprices : Xml.named "price" pricedPart.children = [plainPrice] := rfl
        rw [hprices, List.mem_singleton] at hy
        exact Or.inr (Or.inr ⟨_, rfl, Or.inr hy⟩)
      · rw [contentMembers_priceElement] at hm
        cases hm

theorem tangledSchema_accepts : tangledSchema.Accepts tangledRoot where
  declared := ⟨tangledElement, List.mem_cons_self .., rfl⟩
  elements path element x h := by
    have hattributes : ∀ type extension declaration name,
        element.Includes (Registry.ofSchema tangledSchema) type → type.Extends extension →
        declaration ∈ extension.attributes → declaration.isRequired = true →
        nonempty? declaration.name? = some name → ∃ a ∈ x.attributes, a.1.localName = name := by
      intro type extension declaration name hincludes hextension hdeclaration hrequired
      have htype := isTangled_of_contains (hincludes.contains h.contains)
      simp only [IsTangled, List.mem_cons, List.not_mem_nil, or_false] at htype
      -- The only attribute is that of amounts, and it is not required.
      rcases htype with rfl | rfl | rfl | rfl | rfl <;> rcases hextension with h | h <;> cases h
      · cases hdeclaration
      · cases hdeclaration
      · rw [List.mem_singleton.1 hdeclaration] at hrequired
        cases hrequired
    rcases eq_of_tangledSchema_describes h with ⟨rfl, rfl⟩ | ⟨rfl, rfl⟩ | ⟨occurs, rfl, hx⟩
    · refine ⟨fun _ _ y hy => ?_, ?_, ?_, hattributes, fun h => nomatch h⟩
      · rw [contentMembers_tangledElement]
        have hchildren : tangledRoot.children = [unitPrice, pricedPart] := rfl
        rw [hchildren] at hy
        rcases List.mem_pair.1 hy with rfl | rfl
        · exact ⟨_, List.mem_cons_self .., rfl⟩
        · exact ⟨_, List.mem_cons_of_mem _ (List.mem_cons_self ..), rfl⟩
      all_goals
        rw [contentMembers_tangledElement]
        simp only [List.forall_mem_cons]
      · refine ⟨?_, ?_, ?_, ?_, fun _ h => nomatch h⟩
        all_goals
          rintro name hname
          cases hname
        · exact fun _ h => nomatch h
        · exact fun _ _ h => nomatch h
        · exact fun _ h => nomatch h
        · exact fun _ _ h => nomatch h
      · refine ⟨?_, ?_, ?_, ?_, fun _ h => nomatch h⟩
        all_goals
          rintro name hname
          cases hname
        · exact fun _ bound h => nomatch h
        · exact fun _ => Nat.le_refl 1
        · exact fun _ bound h => nomatch h
        · exact fun _ => Nat.le_refl 1
    · refine ⟨fun _ _ y hy => ?_, ?_, ?_, hattributes, fun h => nomatch h⟩
      · rw [contentMembers_partElement]
        have hchildren : pricedPart.children = [plainPrice] := rfl
        rw [hchildren, List.mem_singleton] at hy
        subst hy
        exact ⟨_, List.mem_singleton_self _, rfl⟩
      all_goals
        rw [contentMembers_partElement, List.forall_mem_singleton]
        rintro name hname
        cases hname
      · exact fun _ _ h => nomatch h
      · exact fun _ => Nat.le_refl 1
    · refine ⟨fun _ _ y hy => ?_, ?_, ?_, hattributes, fun h => nomatch h⟩
      · rcases hx with rfl | rfl <;> cases hy
      all_goals
        rw [contentMembers_priceElement]
        exact fun _ h => nomatch h

/-- **What goes wrong without order**, in a regular schema without circles. The list of prices is met
with the price of the base and with that of the part, neither of them an array: an element of the
extension has the name of the one, and an element with a point in its name the path of the other. And
a text is met with the object of its base, which is a complex type. The document asks for both
top-level elements, of which every instance has one. -/
theorem tangledDocument_not_conforms :
    tangledDocument.schema? = some tangledSchema ∧ tangledSchema.Regular ∧ tangledSchema.Acyclic ∧
      (∀ element, tangledSchema.Contains (.element element) →
        element.occurs.max? ∈ [none, some "1", some "unbounded"]) ∧
      tangledReading.Follows tangledDocument unboundedAsArrays ∧
      tangledSchema.Accepts tangledRoot ∧
      convertWith unboundedAsArrays tangledDocument = .ok tangledOutput ∧
      readInstance tangledReading (.ok tangledRoot) = .ok tangledValue ∧
      Meets .draft202012 tangledOutput (.obj tangledValue) priceSchema (.arr [unitPriceValue]) ∧
      Meets .draft202012 tangledOutput (.obj tangledValue) priceSchema (.arr [.str "none"]) ∧
      Meets .draft202012 tangledOutput (.obj tangledValue) amountSchema (.str "few") ∧
      (∃ name ∈ tangledOutput.required, Fields.value? tangledValue name = none) ∧
      ¬ Conforms .draft202012 tangledOutput (.obj tangledValue) := by
  refine ⟨rfl, tangledSchema_regular, tangledSchema_acyclic, fun element h => ?_,
    tangledReading_follows, tangledSchema_accepts, convertWith_tangledDocument,
    readInstance_tangledRoot, ?_⟩
  · have helement := isTangled_of_contains h
    simp only [IsTangled, List.mem_cons, List.not_mem_nil, or_false] at helement
    rcases helement with rfl | rfl | rfl | rfl | rfl <;> decide
  have hstart : Meets .draft202012 tangledOutput (.obj tangledValue) tangledOutput
      (.obj tangledValue) := .start
  have hprice : (reference "#/$defs/Price").reference? =
      some (Dialect.draft202012.reference "Price") := rfl
  have hamount : (reference "#/$defs/Amount").reference? =
      some (Dialect.draft202012.reference "Amount") := rfl
  have hbase : (reference "#/$defs/Offer").reference? =
      some (Dialect.draft202012.reference "Offer") := rfl
  have hproperty : tangledOutput.properties.value? "offer" =
      some (.allOf [.reference "#/$defs/Offer", tangledObject]) := rfl
  have hoffer := hstart.property hproperty rfl
  have hobject := hoffer.branch (List.mem_cons_of_mem _ (List.mem_singleton_self tangledObject))
  have hsingle : onePriceSchema.properties.value? "price" =
      some (.reference "#/$defs/Price") := rfl
  -- The base says that there is one price, and so does the part.
  have hoffered := (hoffer.branch (List.mem_cons_self ..)).reference hbase rfl
  have hbasePrice := (hoffered.property hsingle rfl).reference hprice rfl
  have hproperty : tangledObject.properties.value? "part" = some onePriceSchema := rfl
  have hpart := hobject.property hproperty rfl
  have hpartPrice := (hpart.property hsingle rfl).reference hprice rfl
  have hproperty : tangledObject.properties.value? "price" =
      some (.array none (.reference "#/$defs/Price")) := rfl
  have hprices := hobject.property hproperty rfl
  have hunit := (hprices.item rfl (List.mem_singleton_self _)).reference hprice rfl
  have hproperty : priceSchema.properties.value? "#text" = some (.reference "#/$defs/Amount") := rfl
  have hamounts := (hunit.property hproperty rfl).reference hamount rfl
  refine ⟨hbasePrice, hpartPrice, hamounts, ⟨"part", by decide, rfl⟩, fun h => ?_⟩
  obtain ⟨fields, hfields, -⟩ := h.objects _ _ hbasePrice rfl
  cases hfields

end Xsd.Document

end SchemaBridge
