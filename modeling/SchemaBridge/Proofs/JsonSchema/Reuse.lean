import SchemaBridge.JsonSchema.Session
import SchemaBridge.Proofs.JsonSchema.Depth

/-!
# Emitters can be used again

A call of an emitter changes the open names while it runs, and it may raise in the middle of blocks
that are still open. All the same it leaves the names as it finds them
(`Emitter.Restores`), whatever they are and whatever the limit on the depth of calls.

The proof gives the results along with the names: a call computes what the functions that pass the
open names down compute within the same depth (`Emitter.Computes`). Blocks carry this from what is
inside to what is outside (`Computes.entering`), and one induction on the limit carries it through
all calls. With enough depth a call gives the answer of the unbounded functions (`call_outcome`),
so a session answers a request from its open names alone (`step_request`).
-/

set_option autoImplicit false

namespace SchemaBridge

open Xsd

/-- What stands after `finally` is done to the state with whatever result a call has. -/
theorem run_tryFinally {ε σ α : Type} (call : ExceptT ε (StateM σ) α) (close : σ → σ) (state : σ) :
    StateT.run (ExceptT.run (tryFinally call (modify close : ExceptT ε (StateM σ) PUnit))) state =
      ((StateT.run (ExceptT.run call) state).1, close (StateT.run (ExceptT.run call) state).2) := by
  simp only [tryFinally, tryFinally', ExceptT.run_map, StateT.run_map, ExceptT.run_mk,
    StateT.run_bind]
  show _ = ((call state).1, close (call state).2)
  rcases hcall : call state with ⟨_ | _, _⟩
  · simp only [StateT.run, hcall]
    rfl
  · simp only [StateT.run, hcall]
    rfl

namespace Emitter

variable {α β : Type}

/-! ## Outcomes of composed calls -/

theorem outcome_bind (call : Emitter α) (next : α → Emitter β) (names : OpenNames) :
    (call >>= next).outcome names =
      match call.outcome names with
      | (.ok value, after) => (next value).outcome after
      | (.error cause, after) => (.error cause, after) := by
  simp only [outcome, ExceptT.run_bind, StateT.run_bind]
  rcases StateT.run (ExceptT.run call) names with ⟨_ | _, _⟩ <;> rfl

theorem outcome_map (f : α → β) (call : Emitter α) (names : OpenNames) :
    (f <$> call).outcome names =
      ((call.outcome names).1.map f, (call.outcome names).2) := by
  simp only [outcome, ExceptT.run_map, StateT.run_map]
  rcases StateT.run (ExceptT.run call) names with ⟨_ | _, _⟩ <;> rfl

/-- What stands after `finally` is done to the open names with whatever result a call has. -/
theorem outcome_tryFinally (call : Emitter α) (close : OpenNames → OpenNames)
    (names : OpenNames) :
    (tryFinally call (modify close : Emitter PUnit)).outcome names =
      ((call.outcome names).1, close (call.outcome names).2) :=
  run_tryFinally call close names

/-- A block that is refused opens nothing and closes nothing. -/
theorem outcome_entering_open {kind : DeclarationKind} {name : String} (block : Bool → Emitter α)
    {names : OpenNames} (h : names.isOpen kind name = true) :
    (entering kind (some name) block).outcome names = (block false).outcome names := by
  show Emitter.outcome (if names.isOpen kind name then _ else _) names = _
  rw [if_pos h]

/-- A block that opens a name closes it with whatever result it has. -/
theorem outcome_entering_closed {kind : DeclarationKind} {name : String}
    (block : Bool → Emitter α) {names : OpenNames} (h : names.isOpen kind name = false) :
    (entering kind (some name) block).outcome names =
      (((block true).outcome (names.push kind name)).1,
        ((block true).outcome (names.push kind name)).2.pop kind) := by
  show Emitter.outcome (if names.isOpen kind name then _ else _) names = _
  rw [if_neg (by simp [h])]
  exact outcome_tryFinally (block true) (fun names => names.pop kind) (names.push kind name)

/-! ## Calls that leave the open names as they find them -/

/-- Whatever names are open, the same names are open after the call, returning or raising. -/
def Restores (call : Emitter α) : Prop :=
  ∀ names, (call.outcome names).2 = names

/-- A partial result as that of a call; where there is none, the call is too deep. -/
def orTooDeep : Option α → Except Raised α
  | some value => .ok value
  | none => .error .tooDeep

/-- Whatever names are open, the call gives the result that is computed from them, or is too deep,
and the same names are open afterwards. -/
def Computes (call : Emitter α) (result? : OpenNames → Option α) : Prop :=
  ∀ names, call.outcome names = (orTooDeep (result? names), names)

theorem Computes.restores {call : Emitter α} {result? : OpenNames → Option α}
    (h : call.Computes result?) : call.Restores :=
  fun names => congrArg Prod.snd (h names)

theorem Computes.outcome_eq {call : Emitter α} {result? : OpenNames → Option α}
    (h : call.Computes result?) {names : OpenNames} {value : α}
    (hvalue : result? names = some value) :
    call.outcome names = (.ok value, names) := by
  rw [h names, hvalue]
  rfl

theorem Restores.map {call : Emitter α} (h : call.Restores) (f : α → β) :
    Restores (f <$> call) := by
  intro names
  rw [outcome_map]
  exact h names

theorem Computes.congr {call : Emitter α} {result? other? : OpenNames → Option α}
    (h : call.Computes result?) (heq : ∀ names, result? names = other? names) :
    call.Computes other? := by
  intro names
  rw [h names, heq names]

theorem Computes.pure (value : α) : Computes (pure value) fun _ => some value :=
  fun _ => rfl

theorem Computes.tooDeep : Computes (throw .tooDeep : Emitter α) fun _ => none :=
  fun _ => rfl

theorem Computes.bind {call : Emitter α} {result? : OpenNames → Option α} {next : α → Emitter β}
    {nextResult? : α → OpenNames → Option β} (h : call.Computes result?)
    (hnext : ∀ value, (next value).Computes (nextResult? value)) :
    (call >>= next).Computes fun names =>
      result? names >>= fun value => nextResult? value names := by
  intro names
  show _ = (orTooDeep (result? names >>= fun value => nextResult? value names), names)
  rw [outcome_bind, h names]
  cases result? names with
  | none => rfl
  | some value => exact hnext value names

/-- A call whose result is only used for a value. -/
theorem Computes.return {call : Emitter α} {result? : OpenNames → Option α}
    (h : call.Computes result?) (f : α → β) :
    (do return f (← call)).Computes fun names => (result? names).map f := by
  intro names
  show _ = (orTooDeep ((result? names).map f), names)
  rw [outcome_bind, h names]
  cases result? names <;> rfl

theorem Computes.mapM {call : β → Emitter α} {result? : β → OpenNames → Option α}
    (list : List β) (h : ∀ b ∈ list, (call b).Computes (result? b)) :
    (list.mapM call).Computes fun names => list.mapM fun b => result? b names := by
  induction list with
  | nil => exact Computes.pure []
  | cons b rest ih =>
      simp only [List.mapM_cons]
      refine (h b (List.mem_cons_self ..)).bind fun value => ?_
      exact (ih fun b hb => h b (List.mem_cons_of_mem _ hb)).bind fun values => .pure _

/-- A block computes from the names inside what its own call computes from them. The name that it
opens is on top when the call ends, so that is the name it closes. -/
theorem Computes.entering {kind : DeclarationKind} {name? : Option String}
    {block : Bool → Emitter α} {inside? outside? : OpenNames → Option α}
    (hinside : (block true).Computes inside?) (houtside : (block false).Computes outside?) :
    (entering kind name? block).Computes fun names =>
      (names.enter kind name?).elim (outside? names) inside? := by
  intro names
  cases name? with
  | none => exact hinside names
  | some name =>
      cases hopen : names.isOpen kind name with
      | true =>
          rw [outcome_entering_open block hopen, houtside names]
          simp only [OpenNames.enter, hopen, if_true, Option.elim_none]
      | false =>
          rw [outcome_entering_closed block hopen, hinside (names.push kind name)]
          simp [OpenNames.enter, hopen]

theorem Computes.enteringGroup {registry : Registry} {ref? : Option String}
    {block : Sequence → Emitter (List α)} {inside? : Sequence → OpenNames → Option (List α)}
    (h : ∀ content, (block content).Computes (inside? content)) :
    (enteringGroup registry ref? block).Computes fun names =>
      match registry.enterGroup? names ref? with
      | none => some []
      | some (inner, content) => inside? content inner := by
  unfold Emitter.enteringGroup Registry.enterGroup?
  cases nonempty? ref? with
  | none => exact .pure _
  | some name =>
      simp only
      cases (registry.groups.value? name).bind Group.sequence? with
      | none => exact .pure _
      | some content =>
          refine .congr (.entering (h content) (.pure _)) fun names => ?_
          simp only
          cases names.enter .group (some name) <;> rfl

end Emitter

/-! ## One induction on the limit -/

namespace Conversion

variable (c : Conversion)

theorem callSimpleType_computes (limit : Nat) :
    (∀ type, (c.callSimpleType limit type).Computes fun _ => c.simpleTypeWithin limit type) ∧
    (∀ list, (c.callList limit list).Computes fun _ => c.listWithin limit list) := by
  induction limit with
  | zero => exact ⟨fun _ => .tooDeep, fun _ => .tooDeep⟩
  | succ limit ih =>
      obtain ⟨htype, hlist⟩ := ih
      constructor
      · intro type
        simp only [callSimpleType, simpleTypeWithin]
        cases type.list? with
        | some list => exact hlist list
        | none => exact .pure _
      · intro list
        simp only [callList, listWithin]
        cases nonempty? list.itemType? with
        | some name => exact .pure _
        | none =>
            cases list.simpleType? with
            | none => exact .pure _
            | some type => exact .return (htype type) _

theorem callTypeKeywords_computes (limit : Nat) (element : Element) :
    (c.callTypeKeywords limit element).Computes fun _ => c.typeKeywordsWithin limit element := by
  unfold callTypeKeywords typeKeywordsWithin
  cases element.simpleType? with
  | none => exact .pure _
  | some type =>
      have hinline := (c.callSimpleType_computes limit).1 type
      exact .return hinline _

/-- Calls of one limit compute what the bounded functions of that depth return. -/
structure CallsCompute (limit : Nat) : Prop where
  element : ∀ element inSequence forceArray,
    (c.callElement limit element inSequence forceArray).Computes fun names =>
      c.elementWithin limit names element inSequence forceArray
  complexType : ∀ type, (c.callComplexType limit type).Computes fun names =>
    c.complexTypeWithin limit names type
  object : ∀ sequence? attributes, (c.callObject limit sequence? attributes).Computes fun names =>
    c.objectWithin limit names sequence? attributes
  sequence : ∀ optional repeats sequence?,
    (c.callSequence limit optional repeats sequence?).Computes fun names =>
      c.sequenceWithin limit names optional repeats sequence?

variable {c}

theorem CallsCompute.element_succ {limit : Nat} (ih : c.CallsCompute limit) (element : Element)
    (inSequence forceArray : Bool) :
    (c.callElement (limit + 1) element inSequence forceArray).Computes fun names =>
      c.elementWithin (limit + 1) names element inSequence forceArray := by
  simp only [callElement, elementWithin]
  cases nonempty? element.name? with
  | none => exact .pure _
  | some name =>
      simp only
      split
      · exact (ih.element element false false).bind fun items? => .pure _
      · refine (c.callTypeKeywords_computes limit element).bind fun keywords? => ?_
        cases keywords? with
        | none => exact .pure _
        | some keywords =>
            cases element.complexType? with
            | none => exact .pure _
            | some type => exact (ih.complexType type).bind fun schema => .pure _

theorem CallsCompute.complexType_succ {limit : Nat} (ih : c.CallsCompute limit)
    (type : ComplexType) :
    (c.callComplexType (limit + 1) type).Computes fun names =>
      c.complexTypeWithin (limit + 1) names type := by
  simp only [callComplexType, complexTypeWithin]
  cases contentShape type with
  | extended base extension =>
      refine .congr (.entering ((ih.object extension.sequence? extension.attributes).bind
        fun object => .pure _) (.pure _)) fun names => ?_
      cases names.enter .complexType type.name? <;> rfl
  | text base extension =>
      refine .congr (.entering (.pure _) (.pure _)) fun names => ?_
      cases names.enter .complexType type.name? <;> rfl
  | plain sequence? =>
      refine .congr (.entering (ih.object sequence? []) (.pure _)) fun names => ?_
      cases names.enter .complexType type.name? <;> rfl

theorem CallsCompute.object_succ {limit : Nat} (ih : c.CallsCompute limit)
    (sequence? : Option Sequence) (attributes : List Attribute) :
    (c.callObject (limit + 1) sequence? attributes).Computes fun names =>
      c.objectWithin (limit + 1) names sequence? attributes := by
  simp only [callObject, objectWithin]
  exact (ih.sequence false false sequence?).bind fun elements => .pure _

theorem CallsCompute.sequence_succ {limit : Nat} (ih : c.CallsCompute limit)
    (optional repeats : Bool) (sequence? : Option Sequence) :
    (c.callSequence (limit + 1) optional repeats sequence?).Computes fun names =>
      c.sequenceWithin (limit + 1) names optional repeats sequence? := by
  cases sequence? with
  | none => exact .pure _
  | some sequence =>
      simp only [callSequence, sequenceWithin]
      refine (Emitter.Computes.mapM _ fun element _ =>
        (ih.element element true _).bind fun schema? => .pure _).bind fun own => ?_
      refine (Emitter.Computes.mapM _ fun ref _ =>
        .enteringGroup fun content => ih.sequence _ _ (some content)).bind fun below => ?_
      exact .pure _

theorem callsCompute (limit : Nat) : c.CallsCompute limit := by
  induction limit with
  | zero =>
      exact ⟨fun _ _ _ => .tooDeep, fun _ => .tooDeep, fun _ _ => .tooDeep,
        fun _ _ _ => .tooDeep⟩
  | succ limit ih =>
      exact ⟨ih.element_succ, ih.complexType_succ, ih.object_succ, ih.sequence_succ⟩

/-! ## Documents and requests -/

theorem callSimpleDefinition_computes (limit : Nat) (type : SimpleType) :
    (c.callSimpleDefinition limit type).Computes fun _ =>
      match nonempty? type.name? with
      | none => some none
      | some name => do
          let definition? ← c.simpleTypeWithin limit type
          return definition?.map fun definition => (name, definition) := by
  unfold callSimpleDefinition
  cases nonempty? type.name? with
  | none => exact .pure _
  | some name => exact ((c.callSimpleType_computes limit).1 type).bind fun definition? => .pure _

theorem callComplexDefinition_computes (limit : Nat) (type : ComplexType) :
    (c.callComplexDefinition limit type).Computes fun names =>
      match nonempty? type.name? with
      | none => some none
      | some name => do return some (name, ← c.complexTypeWithin limit names type) := by
  unfold callComplexDefinition
  cases nonempty? type.name? with
  | none => exact .pure _
  | some name => exact ((c.callsCompute limit).complexType type).bind fun schema => .pure _

theorem callSchemaDocument_computes (limit : Nat) (schema : Schema) :
    (c.callSchemaDocument limit schema).Computes fun names =>
      c.schemaDocumentWithin limit names schema := by
  cases limit with
  | zero => exact .tooDeep
  | succ limit =>
      have ih := c.callsCompute limit
      simp only [callSchemaDocument, schemaDocumentWithin]
      refine (Emitter.Computes.mapM _ fun element _ =>
        (ih.element element false false).bind fun schema? => .pure _).bind fun roots => ?_
      refine (Emitter.Computes.mapM _ fun type _ =>
        c.callSimpleDefinition_computes limit type).bind fun simple => ?_
      refine (Emitter.Computes.mapM _ fun type _ =>
        c.callComplexDefinition_computes limit type).bind fun complex => ?_
      exact .pure _

/-- The failures of a document are found before any name is opened. -/
theorem callDocument_restores (limit : Nat) (document : Document) :
    (c.callDocument limit document).Restores := by
  intro names
  unfold callDocument
  cases document.schema? with
  | none => rfl
  | some schema =>
      simp only
      split
      · rfl
      · exact (c.callSchemaDocument_computes limit schema).restores names

/-- Whatever is asked for, the open names are left as they were found. -/
theorem call_restores (limit : Nat) (document : Document) :
    ∀ request, (c.call limit document request).Restores
  | .document => (c.callDocument_restores limit document).map some
  | .element declaration inSequence forceArray =>
      ((c.callsCompute limit).element declaration inSequence forceArray).restores
  | .complexType declaration => ((c.callsCompute limit).complexType declaration).restores.map some
  | .simpleType declaration => ((c.callSimpleType_computes limit).1 declaration).restores
  | .list declaration => ((c.callSimpleType_computes limit).2 declaration).restores
  | .restriction _ => (Emitter.Computes.pure _).restores
  | .attribute _ => (Emitter.Computes.pure _).restores
  | .typeName _ => (Emitter.Computes.pure _).restores
  | .object sequence? attributes =>
      ((c.callsCompute limit).object sequence? attributes).restores.map some

/-! ## Answers -/

/-- The schema that answers a request, if the declaration has one, as the unbounded functions
give it. -/
def answer (document : Document) (names : OpenNames) :
    SchemaRequest → Except Failure (Option JsonSchema)
  | .document => (c.emitWith names document).map some
  | .element element inSequence forceArray =>
      .ok (c.elementSchema? names element inSequence forceArray)
  | .complexType type => .ok (some (c.complexTypeSchema names type))
  | .simpleType type => .ok (c.simpleTypeSchema? type)
  | .list list => .ok (c.listSchema? list)
  | .restriction restriction => .ok (c.restrictionSchema? restriction)
  | .attribute declaration => .ok (c.attributeSchema? declaration)
  | .typeName name => .ok (some (c.typeSchema name))
  | .object sequence? attributes => .ok (some (c.objectSchema names sequence? attributes))

theorem callDocument_outcome {limit : Nat} {document : Document} (names : OpenNames)
    (h : c.registry.callDepth document.nesting ≤ limit) :
    (c.callDocument limit document).outcome names =
      ((c.emitWith names document).mapError .failure, names) := by
  have hroom := c.registry.remaining_le names
  unfold Registry.callDepth at h
  unfold callDocument emitWith
  cases hschema : document.schema? with
  | none => rfl
  | some schema =>
      have hnesting : document.nesting = schema.nesting := by
        simp only [Document.nesting, hschema, Option.getD_some]
      simp only
      split
      · rfl
      · exact (c.callSchemaDocument_computes limit schema).outcome_eq
          (schemaDocumentWithin_eq c.registry.room names (by omega))

/-- Within enough depth a call gives the answer of the unbounded functions. -/
theorem call_outcome {limit : Nat} {document : Document} {request : SchemaRequest}
    (names : OpenNames) (h : c.registry.callDepth (request.nesting document) ≤ limit) :
    (c.call limit document request).outcome names =
      ((c.answer document names request).mapError .failure, names) := by
  have ih := c.callsCompute limit
  have hroom := c.registry.remaining_le names
  obtain ⟨helement, htype, hobject, -⟩ := emissionReturns_of_room c.registry.room limit
  match request with
  | .document =>
      rw [call, Emitter.outcome_map, c.callDocument_outcome names h, answer]
      cases c.emitWith names document <;> rfl
  | .element declaration inSequence forceArray =>
      simp only [Registry.callDepth, SchemaRequest.nesting] at h
      exact (ih.element declaration inSequence forceArray).outcome_eq
        (helement names declaration inSequence forceArray (by split <;> omega))
  | .complexType declaration =>
      simp only [Registry.callDepth, SchemaRequest.nesting] at h
      rw [call, Emitter.outcome_map,
        (ih.complexType declaration).outcome_eq (htype names declaration (by omega))]
      rfl
  | .simpleType declaration =>
      simp only [Registry.callDepth, SchemaRequest.nesting] at h
      exact ((c.callSimpleType_computes limit).1 declaration).outcome_eq
        ((c.simpleTypeWithin_eq limit).1 declaration (by omega))
  | .list declaration =>
      simp only [Registry.callDepth, SchemaRequest.nesting] at h
      exact ((c.callSimpleType_computes limit).2 declaration).outcome_eq
        ((c.simpleTypeWithin_eq limit).2 declaration (by omega))
  | .restriction _ => rfl
  | .attribute _ => rfl
  | .typeName _ => rfl
  | .object sequence? attributes =>
      simp only [Registry.callDepth, SchemaRequest.nesting] at h
      rw [call, Emitter.outcome_map, (ih.object sequence? attributes).outcome_eq
        (hobject names sequence? attributes (by omega))]
      rfl

/-- A session answers a request from its open names alone, and goes on as if nothing had been
asked. -/
theorem step_request (document : Document) (session : Session) (request : SchemaRequest) :
    c.step document session (.request request) =
      (session, (c.answer document session.names request).map .schema) := by
  simp only [step, c.call_outcome session.names (Nat.le_refl _)]
  cases c.answer document session.names request <;> rfl

end Conversion

/-! ## One call after another -/

/-- A call on an emitter: a request about a document, within a limit on the depth of calls. -/
structure EmitterCall where
  limit : Nat
  document : Document
  request : SchemaRequest

/-- Run a step for each item in turn: the state in the end, and what the steps give. -/
def runEach {σ ι β : Type} (step : σ → ι → σ × β) : σ → List ι → σ × List β
  | state, [] => (state, [])
  | state, item :: rest =>
      let (next, result) := step state item
      let (last, results) := runEach step next rest
      (last, result :: results)

/-- Steps that keep the state they start from each give what they give at the start. -/
theorem runEach_eq_of_keeps {σ ι β : Type} {step : σ → ι → σ × β} {state : σ} {items : List ι}
    (h : ∀ item ∈ items, (step state item).1 = state) :
    runEach step state items = (state, items.map fun item => (step state item).2) := by
  induction items with
  | nil => rfl
  | cons item rest ih =>
      have hrest := ih fun item hmem => h item (List.mem_cons_of_mem _ hmem)
      simp only [runEach, h item (List.mem_cons_self ..), hrest, List.map_cons]

namespace Conversion

variable (c : Conversion)

/-- Make a call on an emitter with some open names: the names that are open afterwards, and what the
call gives. -/
def callOn (names : OpenNames) (call : EmitterCall) :
    OpenNames × Except Raised (Option JsonSchema) :=
  ((c.call call.limit call.document call.request).outcome names).swap

/-- **An emitter can be used again.** Every call leaves its open names as they were, whether it
returns or raises and however deep it may go. So in a sequence of calls each one gives what it gives
on a new emitter with the same open names. The same holds for the requests of a session, and their
answers are those of the unbounded functions. -/
theorem calls_restore_names :
    (∀ (names : OpenNames) (call : EmitterCall), (c.callOn names call).1 = names) ∧
    (∀ (names : OpenNames) (calls : List EmitterCall),
      runEach c.callOn names calls = (names, calls.map fun call => (c.callOn names call).2)) ∧
    ∀ (document : Document) (session : Session),
      (∀ requests : List SchemaRequest,
        runEach (c.step document) session (requests.map .request) =
          (session, requests.map fun request =>
            (c.step document { names := session.names } (.request request)).2)) ∧
      ∀ request, (c.step document session (.request request)).2 =
        (c.answer document session.names request).map .schema := by
  have hcall : ∀ names call, (c.callOn names call).1 = names :=
    fun names call => c.call_restores call.limit call.document call.request names
  refine ⟨hcall, fun names calls => runEach_eq_of_keeps fun call _ => hcall names call,
    fun document session => ⟨fun requests => ?_, fun request => ?_⟩⟩
  · have hstep : ∀ step ∈ requests.map ConversionStep.request,
        (c.step document session step).1 = session := by
      intro step hmem
      obtain ⟨request, -, rfl⟩ := List.mem_map.1 hmem
      rw [step_request]
    rw [runEach_eq_of_keeps hstep, List.map_map]
    simp only [Function.comp_def, step_request]
  · rw [step_request]

/-- A call may raise while the name of the type that it was asked for is open. -/
example (c : Conversion) (document : Document) :
    c.callOn {} ⟨2, document, .complexType { name? := some "Order", sequence? := some {} }⟩ =
      ({}, .error .tooDeep) := rfl

end Conversion

end SchemaBridge
