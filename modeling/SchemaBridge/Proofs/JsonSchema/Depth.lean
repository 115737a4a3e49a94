import SchemaBridge.JsonSchema.Emitter
import SchemaBridge.Proofs.JsonSchema.Content
import SchemaBridge.Proofs.Xsd.Nesting

/-!
# Building schemas within a depth of calls

The functions that build schemas call each other: an element calls for its type, a type for its
object, an object for its sequence, and a sequence for its elements and for the sequences of the
groups it refers to. The versions here do the same with a bound on the depth of the calls and give
up when the bound is used up; they know no other reason to end.

They never give up within the depth that the nesting of declarations and the names that can be opened
allow (`Registry.Room`), whatever names are open from the start, and then they return what the
unbounded functions return (`emissionReturns_of_room`, `emitWithin_eq_of_room`).
-/

set_option autoImplicit false

namespace SchemaBridge

open Xsd

/-- Running a partial function that always succeeds over a list. -/
theorem mapM_eq_some_map {α β : Type} {f : α → Option β} {g : α → β} {list : List α}
    (h : ∀ a ∈ list, f a = some (g a)) : list.mapM f = some (list.map g) := by
  induction list with
  | nil => rfl
  | cons a rest ih =>
      rw [List.mapM_cons, h a (List.mem_cons_self ..),
        ih fun b hb => h b (List.mem_cons_of_mem _ hb)]
      rfl

theorem reduceOption_map_eq_filterMap {α β : Type} (f : α → Option β) (list : List α) :
    (list.map f).reduceOption = list.filterMap f :=
  List.filterMap_map

namespace Conversion

variable (c : Conversion)

/-- The entries of the definitions: the named simple types that have a schema, then the named
complex types. -/
def definitionEntries (names : OpenNames) (schema : Schema) : List (String × JsonSchema) :=
  schema.simpleTypes.filterMap (fun type => do
    let name ← nonempty? type.name?
    let definition ← c.simpleTypeSchema? type
    return (name, definition)) ++
  schema.complexTypes.filterMap fun type =>
    (nonempty? type.name?).map fun name => (name, c.complexTypeSchema names type)

theorem schemaDocument_eq (names : OpenNames) (schema : Schema) :
    c.schemaDocument names schema =
      c.documentOf (c.declaredRoots names schema) (c.definitionEntries names schema) := rfl

/-! ## The bounded calls -/

mutual

/-- The schema of a simple type within a depth of calls. -/
def simpleTypeWithin : Nat → SimpleType → Option (Option JsonSchema)
  | 0, _ => none
  | depth + 1, type =>
      match type.list? with
      | some list => listWithin depth list
      | none => some (c.simpleTypeSchema? type)

/-- The schema of a list within a depth of calls. -/
def listWithin : Nat → ListType → Option (Option JsonSchema)
  | 0, _ => none
  | depth + 1, list =>
      match nonempty? list.itemType?, list.simpleType? with
      | none, some type =>
          (simpleTypeWithin depth type).map fun items? => items?.map fun items => .array none items
      | _, _ => some (c.listSchema? list)

end

/-- The keywords that an element takes from its simple type or its type name, within a depth of
calls. -/
def typeKeywordsWithin (depth : Nat) (element : Element) : Option (Option JsonSchema) :=
  match element.simpleType? with
  | none => some (c.typeKeywords? element)
  | some type =>
      (c.simpleTypeWithin depth type).map fun
        | some schema => some schema
        | none => if element.complexType?.isSome then some .unconstrained else none

mutual

/-- The schema of an element within a depth of calls. The items of an array are a call of their
own. -/
def elementWithin : Nat → OpenNames → Element → Bool → Bool → Option (Option JsonSchema)
  | 0, _, _, _, _ => none
  | depth + 1, names, element, inSequence, forceArray =>
      match nonempty? element.name? with
      | none => some none
      | some _ =>
          if forceArray || c.options.isArrayElement element inSequence then do
            let items? ← elementWithin depth names element false false
            return some (.array element.occurs.minItems? (items?.getD .unconstrained))
          else do
            match ← c.typeKeywordsWithin depth element, element.complexType? with
            | none, _ => return none
            | some keywords, none => return some keywords
            | some keywords, some type =>
                return some (keywords.update (← complexTypeWithin depth names type))

/-- The schema of a complex type within a depth of calls. -/
def complexTypeWithin : Nat → OpenNames → ComplexType → Option JsonSchema
  | 0, _, _ => none
  | depth + 1, names, type =>
      match names.enter .complexType type.name? with
      | none => some .unconstrained
      | some inner =>
          match contentShape type with
          | .extended base extension => do
              let object ← objectWithin depth inner extension.sequence? extension.attributes
              return .allOf [c.typeSchema base, object]
          | .text base extension => some (c.textObject base extension.attributes)
          | .plain sequence? => objectWithin depth inner sequence? []

/-- The object schema of a sequence and attributes within a depth of calls. -/
def objectWithin : Nat → OpenNames → Option Sequence → List Attribute → Option JsonSchema
  | 0, _, _, _ => none
  | depth + 1, names, sequence?, attributes => do
      let elements ← sequenceWithin depth names false false sequence?
      return objectOf (elements ++ c.declaredAttributes attributes)

/-- The properties of a sequence below references, within a depth of calls. -/
def sequenceWithin : Nat → OpenNames → Bool → Bool → Option Sequence → Option (List Declared)
  | 0, _, _, _, _ => none
  | _ + 1, _, _, _, none => some []
  | depth + 1, names, optional, repeats, some sequence => do
      let own ← sequence.elements.mapM fun element => do
        let schema? ← elementWithin depth names element true (c.options.forcesArray repeats)
        return schema?.map fun schema =>
          { name := element.name?.getD "", schema, required := !optional && element.isRequired }
      let below ← sequence.groups.mapM fun ref =>
        match c.registry.enterGroup? names ref.ref? with
        | none => some []
        | some (inner, content) =>
            sequenceWithin depth inner (optional || ref.occurs.isOptional)
              (repeats || ref.occurs.isUnbounded) (some content)
      return own.reduceOption ++ below.flatten

end

/-- The schema document of a schema within a depth of calls. -/
def schemaDocumentWithin : Nat → OpenNames → Schema → Option JsonSchema
  | 0, _, _ => none
  | depth + 1, names, schema => do
      let roots ← schema.elements.mapM fun element => do
        let schema? ← c.elementWithin depth names element false false
        return schema?.map fun schema =>
          { name := element.name?.getD "", schema, required := element.isRequired }
      let simple ← schema.simpleTypes.mapM fun type =>
        match nonempty? type.name? with
        | none => some none
        | some name => do
            let definition? ← c.simpleTypeWithin depth type
            return definition?.map fun definition => (name, definition)
      let complex ← schema.complexTypes.mapM fun type =>
        match nonempty? type.name? with
        | none => some none
        | some name => do return some (name, ← c.complexTypeWithin depth names type)
      return c.documentOf roots.reduceOption (simple.reduceOption ++ complex.reduceOption)

/-- The JSON schema of a document within a depth of calls. -/
def emitWithin (depth : Nat) (names : OpenNames) (document : Document) :
    Option (Except Failure JsonSchema) :=
  match document.schema? with
  | none => some (.error .schemaMissing)
  | some schema =>
      if schema.elements.isEmpty then some (.error .rootElementMissing)
      else (c.schemaDocumentWithin depth names schema).map .ok

/-! ## Simple types -/

theorem simpleTypeWithin_eq (depth : Nat) :
    (∀ type : SimpleType, type.nesting ≤ depth →
      c.simpleTypeWithin depth type = some (c.simpleTypeSchema? type)) ∧
    (∀ list : ListType, list.nesting ≤ depth →
      c.listWithin depth list = some (c.listSchema? list)) := by
  induction depth with
  | zero =>
      constructor
      · intro type h
        have hpos := type.nesting_pos
        omega
      · intro list h
        have hpos := list.nesting_pos
        omega
  | succ depth ih =>
      obtain ⟨htype, hlist⟩ := ih
      constructor
      · intro type h
        rw [simpleTypeWithin]
        cases hl : type.list? with
        | none => rfl
        | some list =>
            have hlt := SimpleType.nesting_lt hl
            rw [c.simpleTypeSchema?_of_list hl]
            exact hlist list (by omega)
      · intro list h
        rw [listWithin, listSchema?_eq]
        cases hitem : nonempty? list.itemType? with
        | some name => rfl
        | none =>
            cases hinline : list.simpleType? with
            | none => rfl
            | some type =>
                have hlt := ListType.nesting_lt hinline
                simp only [htype type (by omega), Option.map_some]

theorem typeKeywordsWithin_eq {depth : Nat} {element : Element} (h : element.nesting ≤ depth + 1) :
    c.typeKeywordsWithin depth element = some (c.typeKeywords? element) := by
  unfold typeKeywordsWithin
  cases htype : element.simpleType? with
  | none => rfl
  | some type =>
      have hlt := Element.simpleType_nesting_lt htype
      have hinline := (c.simpleTypeWithin_eq depth).1 type (by omega)
      cases hschema : c.simpleTypeSchema? type with
      | none => simp only [hinline, typeKeywords?, htype, hschema, Option.map_some]
      | some schema => simp only [hinline, typeKeywords?, htype, hschema, Option.map_some]

/-! ## Elements, types, objects and sequences -/

/-- The sequence that a type adds to an object nests less deeply than the type. -/
theorem contentShape_nesting_lt (type : ComplexType) :
    Sequence.optionalNesting (contentShape type).sequence? < type.nesting := by
  have htype := type.sequence_nesting_lt
  cases hsequence : (contentShape type).sequence? with
  | none =>
      simp only [Sequence.optionalNesting]
      omega
  | some sequence =>
      rcases sequence?_contentShape type hsequence with hown | ⟨extension, hextension, hown⟩
      · rw [← hown]
        exact htype
      · have hlt := ComplexType.complexContent_nesting_lt hextension
        have hinner := extension.sequence_nesting_lt
        rw [hown] at hinner
        omega

variable {c} {room : OpenNames → Nat}

/-- Elements return within a depth that their nesting and the open names leave. -/
def ElementReturns (c : Conversion) (room : OpenNames → Nat) (depth : Nat) : Prop :=
  ∀ (names : OpenNames) (element : Element) (inSequence forceArray : Bool),
    2 * (element.nesting + room names) +
        (if forceArray || c.options.isArrayElement element inSequence then 1 else 0) ≤ depth →
      c.elementWithin depth names element inSequence forceArray =
        some (c.elementSchema? names element inSequence forceArray)

/-- Complex types return. -/
def ComplexTypeReturns (c : Conversion) (room : OpenNames → Nat) (depth : Nat) : Prop :=
  ∀ (names : OpenNames) (type : ComplexType),
    2 * (type.nesting + room names) + 1 ≤ depth →
      c.complexTypeWithin depth names type = some (c.complexTypeSchema names type)

/-- Objects return. -/
def ObjectReturns (c : Conversion) (room : OpenNames → Nat) (depth : Nat) : Prop :=
  ∀ (names : OpenNames) (sequence? : Option Sequence) (attributes : List Attribute),
    2 * (Sequence.optionalNesting sequence? + room names) + 2 ≤ depth →
      c.objectWithin depth names sequence? attributes =
        some (c.objectSchema names sequence? attributes)

/-- Sequences return. -/
def SequenceReturns (c : Conversion) (room : OpenNames → Nat) (depth : Nat) : Prop :=
  ∀ (names : OpenNames) (optional repeats : Bool) (sequence? : Option Sequence),
    2 * (Sequence.optionalNesting sequence? + room names) + 1 ≤ depth →
      c.sequenceWithin depth names optional repeats sequence? =
        some (c.declaredBelow
          (Sequence.optionalMembersBelow c.registry optional repeats names sequence?))

theorem elementReturns_succ {depth : Nat} (helement : ElementReturns c room depth)
    (htype : ComplexTypeReturns c room depth) : ElementReturns c room (depth + 1) := by
  intro names element inSequence forceArray h
  have hpos := element.nesting_pos
  rw [elementWithin, elementSchema?, presented]
  cases hname : nonempty? element.name? with
  | none => rfl
  | some name =>
      simp only
      split
      · rename_i harray
        rw [if_pos harray] at h
        -- The items are asked for outside a sequence, so they are no array themselves.
        have hitems : c.options.isArrayElement element false = false := rfl
        rw [helement names element false false (by simp [hitems]; omega), elementSchema?, presented,
          hname, hitems]
        rfl
      · rename_i harray
        rw [if_neg harray] at h
        rw [c.typeKeywordsWithin_eq (by omega), singleSchema?_eq, hname]
        cases hkeywords : c.typeKeywords? element with
        | none => rfl
        | some keywords =>
            cases hcomplex : element.complexType? with
            | none => rfl
            | some type =>
                have hlt := Element.complexType_nesting_lt hcomplex
                simp only [Option.bind_eq_bind, Option.bind_some, Option.map_some]
                rw [htype names type (by omega)]
                rfl

theorem complexTypeReturns_succ (hroom : c.registry.Room room) {depth : Nat}
    (hobject : ObjectReturns c room depth) :
    ComplexTypeReturns c room (depth + 1) := by
  intro names type h
  rw [complexTypeWithin, complexTypeSchema_eq]
  cases henter : names.enter .complexType type.name? with
  | none => rfl
  | some inner =>
      -- An inline type may open a name of its own, which never leaves more to be opened.
      have hle := hroom.le_of_enter henter
      have hlt := contentShape_nesting_lt type
      simp only [contentSchema]
      cases hshape : contentShape type with
      | extended base extension =>
          simp only [hshape, ContentShape.sequence?] at hlt ⊢
          rw [hobject inner extension.sequence? extension.attributes (by omega)]
          rfl
      | text base extension => rfl
      | plain sequence? =>
          simp only [hshape, ContentShape.sequence?] at hlt ⊢
          rw [hobject inner sequence? [] (by omega)]
          simp [objectSchema, declaredAttributes]

theorem objectReturns_succ {depth : Nat} (hsequence : SequenceReturns c room depth) :
    ObjectReturns c room (depth + 1) := by
  intro names sequence? attributes h
  rw [objectWithin, hsequence names false false sequence? (by omega), objectSchema,
    declaredElements_eq, Sequence.optionalMembers_eq]
  rfl

theorem sequenceReturns_succ (hroom : c.registry.Room room) {depth : Nat}
    (helement : ElementReturns c room depth) (hsequence : SequenceReturns c room depth) :
    SequenceReturns c room (depth + 1) := by
  intro names optional repeats sequence? h
  cases sequence? with
  | none => rfl
  | some sequence =>
      -- Own elements go down in the sequence, groups go down in the names that can be opened.
      have hown : sequence.elements.mapM (fun element => do
          let schema? ← c.elementWithin depth names element true (c.options.forcesArray repeats)
          return schema?.map fun schema =>
            ({ name := element.name?.getD "", schema,
               required := !optional && element.isRequired } : Declared)) =
          some (sequence.elements.map fun element =>
            c.declaredMember? ⟨element, names, optional, repeats⟩
              (c.singleSchema? names element)) := by
        apply mapM_eq_some_map
        intro element hmem
        have hlt := Sequence.element_nesting_lt hmem
        simp only [Sequence.optionalNesting] at h
        rw [helement names element true _ (by split <;> omega)]
        rfl
      have hbelow : sequence.groups.mapM (fun ref =>
          match c.registry.enterGroup? names ref.ref? with
          | none => some []
          | some (inner, content) =>
              c.sequenceWithin depth inner (optional || ref.occurs.isOptional)
                (repeats || ref.occurs.isUnbounded) (some content)) =
          some (sequence.groups.map fun ref =>
            match c.registry.enterGroup? names ref.ref? with
            | none => []
            | some (inner, content) =>
                c.declaredBelow (content.membersBelow c.registry
                  (optional || ref.occurs.isOptional) (repeats || ref.occurs.isUnbounded)
                  inner)) := by
        apply mapM_eq_some_map
        intro ref _
        split
        · rfl
        · rename_i inner content henter
          have hlt := hroom.lt_of_enterGroup? henter
          simp only [Sequence.optionalNesting] at h
          rw [hsequence inner _ _ (some content) (by simp only [Sequence.optionalNesting]; omega)]
          rfl
      rw [sequenceWithin, hown, hbelow, Sequence.optionalMembersBelow,
        declaredBelow_membersBelow]
      simp only [Option.bind_eq_bind, Option.bind_some, reduceOption_map_eq_filterMap,
        List.flatMap]
      rfl

theorem emissionReturns_of_room (hroom : c.registry.Room room) (depth : Nat) :
    ElementReturns c room depth ∧ ComplexTypeReturns c room depth ∧
      ObjectReturns c room depth ∧ SequenceReturns c room depth := by
  -- One induction for all four, since each calls the next at the depth below.
  induction depth with
  | zero =>
      refine ⟨fun names element _ _ h => ?_, fun _ _ h => ?_, fun _ _ _ h => ?_,
        fun _ _ _ _ h => ?_⟩
      · have hpos := element.nesting_pos
        omega
      · omega
      · omega
      · omega
  | succ depth ih =>
      obtain ⟨helement, htype, hobject, hsequence⟩ := ih
      exact ⟨elementReturns_succ helement htype, complexTypeReturns_succ hroom hobject,
        objectReturns_succ hsequence, sequenceReturns_succ hroom helement hsequence⟩

theorem emissionReturns {document : Document} (hc : c.registry = Registry.ofDocument document)
    (depth : Nat) :
    ElementReturns c document.remaining depth ∧ ComplexTypeReturns c document.remaining depth ∧
      ObjectReturns c document.remaining depth ∧ SequenceReturns c document.remaining depth :=
  emissionReturns_of_room (hc ▸ document.room) depth

/-! ## Documents -/

theorem mapM_rootsWithin_eq {depth : Nat} (helement : ElementReturns c room depth)
    (names : OpenNames) (elements : List Element)
    (h : ∀ element ∈ elements, 2 * (element.nesting + room names) + 1 ≤ depth) :
    elements.mapM (fun element => do
        let schema? ← c.elementWithin depth names element false false
        return schema?.map fun schema =>
          ({ name := element.name?.getD "", schema, required := element.isRequired } : Declared)) =
      some (elements.map fun element =>
        (c.elementSchema? names element false false).map fun schema =>
          { name := element.name?.getD "", schema, required := element.isRequired }) := by
  apply mapM_eq_some_map
  intro element hmem
  have hdepth := h element hmem
  rw [helement names element false false (by split <;> omega)]
  rfl

theorem mapM_simpleDefinitionsWithin_eq (c : Conversion) (depth : Nat)
    (types : List SimpleType)
    (h : ∀ type ∈ types, type.nesting ≤ depth) :
    types.mapM (fun type =>
        match nonempty? type.name? with
        | none => some none
        | some name => do
            let definition? ← c.simpleTypeWithin depth type
            return definition?.map fun definition => (name, definition)) =
      some (types.map fun type => do
        let name ← nonempty? type.name?
        let definition ← c.simpleTypeSchema? type
        return (name, definition)) := by
  apply mapM_eq_some_map
  intro type hmem
  cases nonempty? type.name? with
  | none => rfl
  | some name =>
      rw [(c.simpleTypeWithin_eq depth).1 type (h type hmem)]
      cases c.simpleTypeSchema? type <;> rfl

theorem mapM_complexDefinitionsWithin_eq {depth : Nat} (htype : ComplexTypeReturns c room depth)
    (names : OpenNames) (types : List ComplexType)
    (h : ∀ type ∈ types, 2 * (type.nesting + room names) + 1 ≤ depth) :
    types.mapM (fun type =>
        match nonempty? type.name? with
        | none => some none
        | some name => do return some (name, ← c.complexTypeWithin depth names type)) =
      some (types.map fun type =>
        (nonempty? type.name?).map fun name => (name, c.complexTypeSchema names type)) := by
  apply mapM_eq_some_map
  intro type hmem
  cases nonempty? type.name? with
  | none => rfl
  | some name =>
      rw [htype names type (h type hmem)]
      rfl

theorem schemaDocumentWithin_eq (hroom : c.registry.Room room) {depth : Nat}
    (names : OpenNames) {schema : Schema}
    (h : 2 * (schema.nesting + room names) ≤ depth) :
    c.schemaDocumentWithin depth names schema = some (c.schemaDocument names schema) := by
  cases depth with
  | zero =>
      have hpos := schema.nesting_pos
      omega
  | succ depth =>
      -- Elements, simple types and complex types are each asked for one level down.
      obtain ⟨helement, htype, -, -⟩ := emissionReturns_of_room hroom depth
      have hroots := mapM_rootsWithin_eq helement names schema.elements fun element hmem => by
        have hlt := Schema.element_nesting_lt hmem
        omega
      have hsimple := c.mapM_simpleDefinitionsWithin_eq depth schema.simpleTypes fun type hmem => by
        have hlt := Schema.simpleType_nesting_lt hmem
        omega
      have hcomplex := mapM_complexDefinitionsWithin_eq htype names schema.complexTypes
        fun type hmem => by
          have hlt := Schema.complexType_nesting_lt hmem
          omega
      rw [schemaDocumentWithin, hroots, hsimple, hcomplex, schemaDocument_eq, definitionEntries,
        declaredRoots]
      simp only [Option.bind_eq_bind, Option.bind_some, reduceOption_map_eq_filterMap]
      rfl

theorem emitWithin_eq_of_room (hroom : c.registry.Room room) {document : Document} {depth : Nat}
    (names : OpenNames) (h : 2 * (document.nesting + room names) ≤ depth) :
    c.emitWithin depth names document = some (c.emitWith names document) := by
  unfold emitWithin emitWith
  cases hschema : document.schema? with
  | none => rfl
  | some schema =>
      have hnesting : document.nesting = schema.nesting := by
        simp only [Document.nesting, hschema, Option.getD_some]
      simp only
      split
      · rfl
      · rw [schemaDocumentWithin_eq hroom names (by omega)]
        rfl

theorem emitWithin_eq {document : Document} (hc : c.registry = Registry.ofDocument document)
    {depth : Nat} (names : OpenNames)
    (h : 2 * (document.nesting + document.remaining names) ≤ depth) :
    c.emitWithin depth names document = some (c.emitWith names document) :=
  emitWithin_eq_of_room (hc ▸ document.room) names h

end Conversion

/-- What a conversion returns within enough calls is its result. -/
theorem convertWith_eq_of_emitWithin {options : Options} {document : Document} {depth : Nat}
    {result : Except Failure JsonSchema}
    (h : (Conversion.ofDocument options document).emitWithin depth {} document = some result)
    (hdepth : 2 * (document.nesting + document.remaining {}) ≤ depth) :
    convertWith options document = result := by
  have hregistry : (Conversion.ofDocument options document).registry =
      Registry.ofDocument document := rfl
  have hreturns := Conversion.emitWithin_eq hregistry {} hdepth
  exact Option.some.inj (hreturns.symm.trans h)

end SchemaBridge
