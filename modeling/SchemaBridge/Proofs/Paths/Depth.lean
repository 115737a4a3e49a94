import SchemaBridge.Paths.Collector
import SchemaBridge.Proofs.JsonSchema.Depth
import SchemaBridge.Proofs.Paths.Chain

/-!
# Collecting paths within a depth of calls

A collector visits an element, then the content of its type, then the sequences in it, then their
elements; a collector of list paths also follows restrictions from type to type. The versions here
do the same with a bound on the depth of the calls and give up when the bound is used up.

Every call either goes down in the declaration at hand or opens a registered name, so `nesting` and
what the open names leave (`Registry.WalkRoom`) together go down (`collectionReturns`), and no walk
over a document gives up within `Document.callDepth`, neither in building schemas nor in collecting
paths (`Document.walks_return`).
-/

set_option autoImplicit false

namespace SchemaBridge

open Xsd

/-! ## The bounded calls -/

/-- Following restrictions to a list within a depth of calls. -/
def resolveListTypeWithin (registry : Registry) :
    Nat → OpenNames → SimpleType → Option (Option ListType)
  | 0, _, _ => none
  | depth + 1, names, type =>
      match type.list? with
      | some list => some (some list)
      | none =>
          match registry.enterSimpleType? names (type.restriction?.bind Restriction.base?) with
          | none => some none
          | some (inner, base) => resolveListTypeWithin registry depth inner base

namespace CollectedKind

variable (kind : CollectedKind) (registry : Registry)

/-- The visited element is one that is looked for. -/
def isMatch : Visit → Bool :=
  match kind with
  | .arrays options => Visit.isArray options
  | .lists => Visit.isList registry

/-- The paths that visits contribute. -/
def found (visits : List Visit) : List String :=
  (visits.filter (kind.isMatch registry)).map fun v => joinedPath v.path

/-- Whether a visited element is looked for, within a depth of calls. -/
def isMatchWithin (depth : Nat) (v : Visit) : Option Bool :=
  match kind with
  | .arrays options => some (v.isArray options)
  | .lists =>
      if (v.member.element.simpleType?.bind SimpleType.list?).isSome then some true
      else
        match registry.simpleType? v.member.element.typeName? with
        | none => some false
        | some type =>
            (resolveListTypeWithin registry depth v.member.names type).map Option.isSome

mutual

/-- The paths found at an element and below it, within a depth of calls. -/
def elementPathsWithin : Nat → List String → Bool → Member → Option (List String)
  | 0, _, _, _ => none
  | depth + 1, above, inSequence, m =>
      match nonempty? m.element.name? with
      | none => some []
      | some name => do
          let path := above ++ [name]
          let isMatch ← kind.isMatchWithin registry depth { path, member := m, inSequence }
          let below ←
            match m.element.complexType? with
            | some type =>
                match m.names.enter .complexType type.name? with
                | none => some []
                | some inner => contentPathsWithin depth path inner type
            | none =>
                match registry.enterComplexType? m.names m.element.typeName? with
                | none => some []
                | some (inner, type) => contentPathsWithin depth path inner type
          return (if isMatch then [joinedPath path] else []) ++ below

/-- The paths found in the content of a type whose name is open, within a depth of calls. -/
def contentPathsWithin : Nat → List String → OpenNames → ComplexType → Option (List String)
  | 0, _, _, _ => none
  | depth + 1, path, names, type => do
      let own ← sequencePathsWithin depth path names false false type.sequence?
      match type.complexContent? with
      | none => return own
      | some extension =>
          let added ← sequencePathsWithin depth path names false false extension.sequence?
          let inherited ←
            match registry.enterComplexType? names extension.base? with
            | none => some []
            | some (inner, base) => contentPathsWithin depth path inner base
          return own ++ (added ++ inherited)

/-- The paths found in a sequence below references, within a depth of calls. -/
def sequencePathsWithin :
    Nat → List String → OpenNames → Bool → Bool → Option Sequence → Option (List String)
  | 0, _, _, _, _, _ => none
  | _ + 1, _, _, _, _, none => some []
  | depth + 1, path, names, optional, repeats, some sequence => do
      let own ← sequence.elements.mapM fun element =>
        elementPathsWithin depth path true ⟨element, names, optional, repeats⟩
      let below ← sequence.groups.mapM fun ref =>
        match registry.enterGroup? names ref.ref? with
        | none => some []
        | some (inner, content) =>
            sequencePathsWithin depth path inner (optional || ref.occurs.isOptional)
              (repeats || ref.occurs.isUnbounded) (some content)
      return own.flatten ++ below.flatten

end

end CollectedKind

/-- Adding the paths of a schema within a depth of calls. -/
def Collector.collectWithin : Nat → Collector → Schema → Option Collector
  | 0, _, _ => none
  | depth + 1, collector, schema => do
      let paths ← schema.elements.mapM fun element =>
        collector.kind.elementPathsWithin collector.registry depth [] false
          { element, names := collector.session.names }
      return { collector with paths := collector.paths ++ paths.flatten }

/-! ## Following restrictions -/

theorem resolveListType?_eq (registry : Registry) (names : OpenNames) (type : SimpleType) :
    resolveListType? registry names type =
      match type.list? with
      | some list => some list
      | none =>
          match registry.enterSimpleType? names (type.restriction?.bind Restriction.base?) with
          | none => none
          | some (inner, base) => resolveListType? registry inner base := by
  rw [resolveListType?]
  cases type.list? with
  | some list => rfl
  | none =>
      simp only
      split <;> rename_i h <;> simp only [h]

variable {registry : Registry} {room : OpenNames → Nat}

theorem resolveListTypeWithin_eq (hroom : registry.WalkRoom room) {depth : Nat} {names : OpenNames}
    (type : SimpleType) (h : room names + 1 ≤ depth) :
    resolveListTypeWithin registry depth names type =
      some (resolveListType? registry names type) := by
  induction depth generalizing names type with
  | zero => omega
  | succ depth ih =>
      rw [resolveListTypeWithin, resolveListType?_eq]
      cases type.list? with
      | some list => rfl
      | none =>
          simp only
          cases henter : registry.enterSimpleType? names
              (type.restriction?.bind Restriction.base?) with
          | none => rfl
          | some pair =>
              have hlt := hroom.lt_of_enterSimpleType? henter
              exact ih pair.2 (by omega)

/-! ## Collecting -/

namespace CollectedKind

variable {kind : CollectedKind}

theorem found_cons (v : Visit) (visits : List Visit) :
    kind.found registry (v :: visits) =
      (if kind.isMatch registry v then [joinedPath v.path] else []) ++
        kind.found registry visits := by
  simp only [found, List.filter_cons]
  split <;> rfl

theorem found_append (first second : List Visit) :
    kind.found registry (first ++ second) =
      kind.found registry first ++ kind.found registry second := by
  simp only [found, List.filter_append, List.map_append]

theorem found_flatMap {α : Type} (list : List α) (f : α → List Visit) :
    kind.found registry (list.flatMap f) =
      (list.map fun a => kind.found registry (f a)).flatten := by
  induction list with
  | nil => rfl
  | cons a rest ih => rw [List.flatMap_cons, found_append, ih, List.map_cons, List.flatten_cons]

theorem isMatchWithin_eq (hroom : registry.WalkRoom room) {depth : Nat} {v : Visit}
    (h : room v.member.names + 1 ≤ depth) :
    kind.isMatchWithin registry depth v = some (kind.isMatch registry v) := by
  cases kind with
  | arrays options => rfl
  | lists =>
      simp only [isMatchWithin, isMatch, Visit.isList]
      cases (v.member.element.simpleType?.bind SimpleType.list?).isSome with
      | true => rfl
      | false =>
          cases registry.simpleType? v.member.element.typeName? with
          | none => rfl
          | some type =>
              simp only [resolveListTypeWithin_eq hroom type h]
              simp

/-- The paths found at members below a path, and further below. -/
def foundAt (kind : CollectedKind) (registry : Registry) (path : List String)
    (members : List Member) : List String :=
  kind.found registry (members.flatMap (visitsBelow registry path true))

theorem foundAt_append (path : List String) (first second : List Member) :
    kind.foundAt registry path (first ++ second) =
      kind.foundAt registry path first ++ kind.foundAt registry path second := by
  simp only [foundAt, List.flatMap_append, found_append]

theorem foundAt_nil (path : List String) : kind.foundAt registry path [] = [] := rfl

/-- Elements are visited within the depth that their nesting and the open names leave. -/
def ElementReturns (kind : CollectedKind) (registry : Registry) (room : OpenNames → Nat)
    (depth : Nat) : Prop :=
  ∀ (above : List String) (inSequence : Bool) (m : Member),
    m.element.nesting + room m.names + 1 ≤ depth →
      kind.elementPathsWithin registry depth above inSequence m =
        some (kind.found registry (visitsBelow registry above inSequence m))

/-- The content of a type is visited. -/
def ContentReturns (kind : CollectedKind) (registry : Registry) (room : OpenNames → Nat)
    (depth : Nat) : Prop :=
  ∀ (path : List String) (names : OpenNames) (type : ComplexType),
    type.nesting + room names + 1 ≤ depth →
      kind.contentPathsWithin registry depth path names type =
        some (kind.foundAt registry path (type.enteredMembers registry names))

/-- A sequence is visited. -/
def SequenceReturns (kind : CollectedKind) (registry : Registry) (room : OpenNames → Nat)
    (depth : Nat) : Prop :=
  ∀ (path : List String) (names : OpenNames) (optional repeats : Bool)
    (sequence? : Option Sequence),
    Sequence.optionalNesting sequence? + room names + 1 ≤ depth →
      kind.sequencePathsWithin registry depth path names optional repeats
          sequence? =
        some (kind.foundAt registry path
          (Sequence.optionalMembersBelow registry optional repeats names
            sequence?))

theorem elementReturns_succ (hroom : registry.WalkRoom room) {depth : Nat}
    (hcontent : ContentReturns kind registry room depth) :
    ElementReturns kind registry room (depth + 1) := by
  intro above inSequence m h
  rw [elementPathsWithin, visitsBelow_eq]
  cases nonempty? m.element.name? with
  | none => rfl
  | some name =>
      have hpos := m.element.nesting_pos
      simp only
      rw [isMatchWithin_eq hroom (by simp only; omega), found_cons, Element.contentMembers]
      cases htype : m.element.complexType? with
      | some type =>
          have hlt := Element.complexType_nesting_lt htype
          simp only [ComplexType.members]
          cases henter : m.names.enter .complexType type.name? with
          | none => rfl
          | some inner =>
              have hle := hroom.le_of_enter henter
              simp only
              rw [hcontent _ inner type (by omega)]
              rfl
      | none =>
          simp only
          cases henter : registry.enterComplexType? m.names
              m.element.typeName? with
          | none => rfl
          | some pair =>
              have hlt := hroom.lt_of_enterComplexType? henter
              simp only
              rw [hcontent _ pair.1 pair.2 (by omega)]
              rfl

theorem contentReturns_succ (hroom : registry.WalkRoom room) {depth : Nat}
    (hcontent : ContentReturns kind registry room depth)
    (hsequence : SequenceReturns kind registry room depth) :
    ContentReturns kind registry room (depth + 1) := by
  intro path names type h
  have hown := type.sequence_nesting_lt
  rw [contentPathsWithin, ComplexType.enteredMembers_eq, foundAt_append,
    hsequence path names false false type.sequence? (by omega), Sequence.optionalMembers_eq]
  cases hextension : type.complexContent? with
  | none =>
      rw [foundAt_nil, List.append_nil]
      rfl
  | some extension =>
      have hlt := ComplexType.complexContent_nesting_lt hextension
      have hinner := extension.sequence_nesting_lt
      simp only
      rw [foundAt_append, hsequence path names false false extension.sequence? (by omega),
        Sequence.optionalMembers_eq]
      cases henter : registry.enterComplexType? names extension.base? with
      | none => rfl
      | some pair =>
          have hbase := hroom.lt_of_enterComplexType? henter
          simp only
          rw [hcontent path pair.1 pair.2 (by omega)]
          rfl

theorem sequenceReturns_succ (hroom : registry.WalkRoom room) {depth : Nat}
    (helement : ElementReturns kind registry room depth)
    (hsequence : SequenceReturns kind registry room depth) :
    SequenceReturns kind registry room (depth + 1) := by
  intro path names optional repeats sequence? h
  cases sequence? with
  | none => rfl
  | some sequence =>
      -- Both loops of the call collect what the flattened sequence has, in the same order.
      simp only [Sequence.optionalNesting] at h
      have hown : sequence.elements.mapM (fun element =>
          kind.elementPathsWithin registry depth path true
            ⟨element, names, optional, repeats⟩) =
          some (sequence.elements.map fun element =>
            kind.found registry
              (visitsBelow registry path true
                ⟨element, names, optional, repeats⟩)) := by
        apply mapM_eq_some_map
        intro element hmem
        have hlt := Sequence.element_nesting_lt hmem
        exact helement path true ⟨element, names, optional, repeats⟩ (by simp only; omega)
      have hbelow : sequence.groups.mapM (fun ref =>
          match registry.enterGroup? names ref.ref? with
          | none => some []
          | some (inner, content) =>
              kind.sequencePathsWithin registry depth path inner
                (optional || ref.occurs.isOptional) (repeats || ref.occurs.isUnbounded)
                (some content)) =
          some (sequence.groups.map fun ref =>
            kind.foundAt registry path
              (match registry.enterGroup? names ref.ref? with
              | none => []
              | some (inner, content) =>
                  content.membersBelow registry
                    (optional || ref.occurs.isOptional) (repeats || ref.occurs.isUnbounded)
                    inner)) := by
        apply mapM_eq_some_map
        intro ref _
        cases henter : registry.enterGroup? names ref.ref? with
        | none => rfl
        | some pair =>
            have hlt := hroom.lt_of_enterGroup? henter
            refine hsequence path pair.1 _ _ (some pair.2) ?_
            simp only [Sequence.optionalNesting]
            omega
      rw [sequencePathsWithin, hown, hbelow, Sequence.optionalMembersBelow,
        Sequence.membersBelow_eq, foundAt_append]
      simp only [foundAt, List.flatMap_map, List.flatMap_assoc, found_flatMap]
      rfl

/-- **No call gives up** within the depth that its argument and the open names leave. -/
theorem collectionReturns (hroom : registry.WalkRoom room) (kind : CollectedKind) (depth : Nat) :
    ElementReturns kind registry room depth ∧ ContentReturns kind registry room depth ∧
      SequenceReturns kind registry room depth := by
  induction depth with
  | zero => exact ⟨fun _ _ _ h => by omega, fun _ _ _ h => by omega, fun _ _ _ _ _ h => by omega⟩
  | succ depth ih =>
      obtain ⟨helement, hcontent, hsequence⟩ := ih
      exact ⟨elementReturns_succ hroom hcontent, contentReturns_succ hroom hcontent hsequence,
        sequenceReturns_succ hroom helement hsequence⟩

end CollectedKind

theorem Collector.collectWithin_eq {collector : Collector} {schema : Schema} {depth : Nat}
    (hroom : collector.registry.WalkRoom room)
    (h : schema.nesting + room collector.session.names + 1 ≤ depth) :
    collector.collectWithin depth schema = some (collector.collect schema) := by
  obtain ⟨kind, registry, session, paths⟩ := collector
  cases depth with
  | zero => omega
  | succ depth =>
      have helements : schema.elements.mapM (fun element =>
          kind.elementPathsWithin registry depth [] false { element, names := session.names }) =
          some (schema.elements.map fun element =>
            kind.found registry
              (visitsBelow registry [] false { element, names := session.names })) := by
        apply mapM_eq_some_map
        intro element hmem
        have hlt := Schema.element_nesting_lt hmem
        refine (CollectedKind.collectionReturns hroom kind depth).1 [] false
          { element, names := session.names } ?_
        simp only at h ⊢
        omega
      rw [collectWithin, helements, Option.bind_eq_bind, Option.bind_some,
        ← CollectedKind.found_flatMap]
      cases kind <;> rfl

/-- What a collector finds in a schema it finds within the depth of calls that the schema allows. -/
theorem Xsd.Document.find_eq_of_collectWithin {document : Document} {schema : Schema}
    {kind : CollectedKind} {depth : Nat} {collector : Collector}
    (hschema : document.schema? = some schema)
    (hdepth : schema.nesting + document.remaining {} + 1 ≤ depth)
    (h : Collector.collectWithin depth { kind, registry := Registry.ofSchema schema } schema =
      some collector) :
    ({ kind, registry := Registry.ofSchema schema } : Collector).find schema = collector.paths := by
  have hroom : (Registry.ofSchema schema).WalkRoom document.remaining := by
    have hdocument := document.walkRoom
    rwa [Registry.ofDocument, hschema] at hdocument
  have hcollect := @Collector.collectWithin_eq document.remaining
    { kind, registry := Registry.ofSchema schema } schema depth hroom hdepth
  rw [h] at hcollect
  rw [Option.some.inj hcollect, Collector.collect]
  exact (List.nil_append _).symm

/-! ## Every walk over a document returns -/

/-- **No walk gives up within the depth of calls that its document allows**, whatever refers to
whatever and whatever names are open from the start: emission, the schemas of single elements, types
and objects, both collectors, and the search for a list. More depth changes no result. -/
theorem Xsd.Document.walks_return (document : Document) (options : Options) (names : OpenNames)
    (extra : Nat) :
    let c := Conversion.ofDocument options document
    let registry := Registry.ofDocument document
    c.emitWithin (document.callDepth document.nesting + extra) names document =
        some (c.emitWith names document) ∧
      (∀ (element : Element) (inSequence forceArray : Bool),
        c.elementWithin (document.callDepth element.nesting + extra) names element inSequence
            forceArray =
          some (c.elementSchema? names element inSequence forceArray)) ∧
      (∀ type : ComplexType,
        c.complexTypeWithin (document.callDepth type.nesting + extra) names type =
          some (c.complexTypeSchema names type)) ∧
      (∀ (sequence? : Option Sequence) (attributes : List Attribute),
        c.objectWithin (document.callDepth (Sequence.optionalNesting sequence?) + extra) names
            sequence? attributes =
          some (c.objectSchema names sequence? attributes)) ∧
      (∀ (kind : CollectedKind) (blocks : List (Option DeclarationKind)) (paths : List String)
          (schema : Schema),
        let collector : Collector := { kind, registry, session := ⟨names, blocks⟩, paths }
        collector.collectWithin (document.callDepth schema.nesting + extra) schema =
          some (collector.collect schema)) ∧
      (∀ type : SimpleType,
        resolveListTypeWithin registry (document.callDepth 0 + extra) names type =
          some (resolveListType? registry names type)) := by
  intro c registry
  have hc : c.registry = Registry.ofDocument document := rfl
  -- What the open names leave is at most what no open names leave, which the depth allows for.
  have hle := document.remaining_le names
  refine ⟨?_, ?_, ?_, ?_, ?_, ?_⟩
  · apply Conversion.emitWithin_eq hc
    unfold Document.callDepth
    omega
  · intro element inSequence forceArray
    apply (Conversion.emissionReturns hc _).1
    unfold Document.callDepth
    split <;> omega
  · intro type
    apply (Conversion.emissionReturns hc _).2.1
    unfold Document.callDepth
    omega
  · intro sequence? attributes
    apply (Conversion.emissionReturns hc _).2.2.1
    unfold Document.callDepth
    omega
  · intro kind blocks paths schema collector
    refine @Collector.collectWithin_eq document.remaining collector schema _ document.walkRoom ?_
    unfold Document.callDepth
    show schema.nesting + document.remaining names + 1 ≤ _
    omega
  · intro type
    apply resolveListTypeWithin_eq document.walkRoom
    unfold Document.callDepth
    omega

end SchemaBridge
