import SchemaBridge.Proofs.JsonSchema.BlockWalks
import SchemaBridge.Proofs.JsonSchema.Reuse
import SchemaBridge.Proofs.Xsd.Blocks
import SchemaBridge.Proofs.Xsd.Regular

/-!
# Calls that write down their blocks

A call of an emitter leaves the open names as it finds them, so what happens to them while it runs
cannot be read off its outcome. A recorder makes the same walk (`Conversion.walkDocument`) and writes
down every block that it enters and leaves. Its open names are those of a session that makes these
steps, and whether a block is entered is what the session answers (`Recorder.entering`).

A recorded call gives the result of the call that it records, and its steps bring the session back to
where it was (`Records`). Along with this goes a law for steps, which says what the open names are
when a step is made. The blocks that a schema can enter have to be admitted by the law where they
stand (`StepLaw.AdmitsParts`), and one induction on the limit carries it through all calls
(`callsRecord`). A law that asks for nothing admits everything, so every conversion is recorded
faithfully (`recordDocument_faithful`).
-/

set_option autoImplicit false

namespace SchemaBridge

open Xsd

/-! ## Steps and the sessions in which they are made -/

namespace Xsd.Session

/-- The steps of a run, each with the session in which it is made. -/
def trace : Session → List BlockStep → List (Session × BlockStep)
  | _, [] => []
  | session, step :: rest => (session, step) :: trace (session.step step.step).1 rest

theorem trace_append (session : Session) (first second : List BlockStep) :
    session.trace (first ++ second) =
      session.trace first ++ (session.after first).trace second := by
  induction first generalizing session with
  | nil => rfl
  | cons step rest ih => simp only [List.cons_append, trace, ih, after_cons]

theorem mem_trace_of_prefix (session : Session) {before steps : List BlockStep} {step : BlockStep}
    (h : before ++ [step] <+: steps) : (session.after before, step) ∈ session.trace steps := by
  obtain ⟨rest, rfl⟩ := h
  rw [List.append_assoc, trace_append]
  exact List.mem_append_right _ (List.mem_cons_self ..)

/-- The session after some steps, from nothing open. -/
def ofSteps (steps : List BlockStep) : Session := ({} : Session).after steps

theorem ofSteps_append (first second : List BlockStep) :
    ofSteps (first ++ second) = (ofSteps first).after second :=
  after_append ..

end Xsd.Session

/-- A call that writes down the steps it makes. -/
abbrev Recorder (α : Type) : Type := ExceptT Raised (StateM (List BlockStep)) α

namespace Recorder

variable {α β : Type}

/-- What a call gives after some steps, and the steps made in the end. -/
def outcome (call : Recorder α) (steps : List BlockStep) : Except Raised α × List BlockStep :=
  StateT.run (ExceptT.run call) steps

/-- A call that enters no block. -/
def quietly (call : Emitter α) : Recorder α :=
  ExceptT.mk fun steps => ((call.outcome (Session.ofSteps steps).names).1, steps)

/-- Run a block inside a declaration, if the session answers that it is entered. The block is left
when it ends. -/
def entering (kind : DeclarationKind) (name? : Option String) (block : Bool → Recorder α) :
    Recorder α := do
  let steps ← get
  set (steps ++ [.enter kind name?])
  try block (decide (((Session.ofSteps steps).step (.enter kind name?)).2 = .truth true))
  finally modify fun made => made ++ [.leave]

theorem outcome_bind (call : Recorder α) (next : α → Recorder β) (steps : List BlockStep) :
    (call >>= next).outcome steps =
      match call.outcome steps with
      | (.ok value, made) => (next value).outcome made
      | (.error cause, made) => (.error cause, made) := by
  simp only [outcome, ExceptT.run_bind, StateT.run_bind]
  rcases StateT.run (ExceptT.run call) steps with ⟨_ | _, _⟩ <;> rfl

/-- A block is left with whatever result it has. -/
theorem outcome_entering (kind : DeclarationKind) (name? : Option String)
    (block : Bool → Recorder α) (steps : List BlockStep) :
    (entering kind name? block).outcome steps =
      let inside := (block ((Session.ofSteps steps).names.enter kind name?).isSome).outcome
        (steps ++ [.enter kind name?])
      (inside.1, inside.2 ++ [.leave]) := by
  have hanswer : decide (((Session.ofSteps steps).step (.enter kind name?)).2 = .truth true) =
      ((Session.ofSteps steps).names.enter kind name?).isSome := by
    rw [Session.enter_answer]
    cases ((Session.ofSteps steps).names.enter kind name?).isSome <;> rfl
  show StateT.run (ExceptT.run (tryFinally (block (decide _)) (modify _ : Recorder PUnit)))
    (steps ++ [.enter kind name?]) = _
  rw [run_tryFinally, hanswer]
  rfl

end Recorder

namespace BlockCalls

/-- The blocks of recorders. -/
def recorder : BlockCalls Recorder where
  entering := Recorder.entering
  quietly := Recorder.quietly

theorem recorder_quietly {α : Type} (call : Emitter α) :
    recorder.quietly call = Recorder.quietly call := rfl

theorem recorder_entering {α : Type} (kind : DeclarationKind) (name? : Option String)
    (block : Bool → Recorder α) :
    recorder.entering kind name? block = Recorder.entering kind name? block := rfl

end BlockCalls

/-! ## Laws for steps -/

/-- What the open names have to satisfy when a step is made. -/
abbrev StepLaw : Type := OpenNames → BlockStep → Prop

/-- A block may be entered where `start` holds, and inside of it `inside` holds. -/
def StepLaw.Admits (law : StepLaw) (start inside : OpenNames → Prop) (kind : DeclarationKind)
    (name? : Option String) : Prop :=
  ∀ names, start names → law names (.enter kind name?) ∧
    match names.enter kind name? with
    | none => law names .leave
    | some inner => inside inner ∧ law inner .leave

theorem StepLaw.admits_of_forall {law : StepLaw} {start : OpenNames → Prop}
    {kind : DeclarationKind} {name? : Option String} (hlaw : ∀ names step, law names step) :
    law.Admits start (fun _ => True) kind name? := by
  intro names _
  cases names.enter kind name? with
  | none => exact ⟨hlaw .., hlaw ..⟩
  | some inner => exact ⟨hlaw .., trivial, hlaw ..⟩

/-- Every step of a run follows a law. -/
def StepLaw.HoldsOf (law : StepLaw) (session : Session) (steps : List BlockStep) : Prop :=
  ∀ event ∈ session.trace steps, law event.1.names event.2

theorem StepLaw.HoldsOf.nil {law : StepLaw} {session : Session} : law.HoldsOf session [] := by
  intro event hevent
  cases hevent

theorem StepLaw.HoldsOf.append {law : StepLaw} {session : Session} {first second : List BlockStep}
    (hfirst : law.HoldsOf session first) (hsecond : law.HoldsOf (session.after first) second) :
    law.HoldsOf session (first ++ second) := by
  intro event hevent
  rw [Session.trace_append, List.mem_append] at hevent
  rcases hevent with hevent | hevent
  · exact hfirst event hevent
  · exact hsecond event hevent

/-- A block follows a law if the steps inside do, and entering and leaving it do. -/
theorem StepLaw.HoldsOf.block {law : StepLaw} {session : Session} {kind : DeclarationKind}
    {name? : Option String} {made : List BlockStep} (henter : law session.names (.enter kind name?))
    (hback : (session.step (.enter kind name?)).1.after made =
      (session.step (.enter kind name?)).1)
    (hmade : law.HoldsOf (session.step (.enter kind name?)).1 made)
    (hleave : law (session.step (.enter kind name?)).1.names .leave) :
    law.HoldsOf session (.enter kind name? :: (made ++ [.leave])) := by
  intro event hevent
  rcases List.mem_cons.1 hevent with rfl | hevent
  · exact henter
  · refine hmade.append ?_ event hevent
    intro last hlast
    rw [hback] at hlast
    rw [List.mem_singleton.1 hlast]
    exact hleave

/-- A recorded call gives the result of a call, and it adds steps that follow a law and bring the
session back. -/
def Records {α : Type} (law : StepLaw) (start : OpenNames → Prop) (recorded : Recorder α)
    (call : Emitter α) : Prop :=
  ∀ steps, start (Session.ofSteps steps).names → ∃ result made,
    call.outcome (Session.ofSteps steps).names = (result, (Session.ofSteps steps).names) ∧
    recorded.outcome steps = (result, steps ++ made) ∧
    (Session.ofSteps steps).after made = Session.ofSteps steps ∧
    law.HoldsOf (Session.ofSteps steps) made

namespace Emitter

variable {α : Type} {kind : DeclarationKind} {name? : Option String} {block : Bool → Emitter α}
  {names inner : OpenNames}

theorem outcome_entering_of_refused (h : names.enter kind name? = none) :
    (entering kind name? block).outcome names = (block false).outcome names := by
  cases name? with
  | none => cases h
  | some name =>
      apply outcome_entering_open
      by_contra hclosed
      rw [OpenNames.enter, if_neg hclosed] at h
      cases h

/-- A block that gives the names inside back gives the names outside back. -/
theorem outcome_entering_of_entered (h : names.enter kind name? = some inner)
    {result : Except Raised α} (hblock : (block true).outcome inner = (result, inner)) :
    (entering kind name? block).outcome names = (result, names) := by
  cases name? with
  | none =>
      cases h
      exact hblock
  | some name =>
      rw [OpenNames.enter] at h
      split at h
      · cases h
      · rename_i hclosed
        cases h
        rw [outcome_entering_closed block (by simpa using hclosed), hblock, OpenNames.pop_push]

end Emitter

namespace Records

variable {α β : Type} {law : StepLaw} {start inside : OpenNames → Prop}

theorem mono {recorded : Recorder α} {call : Emitter α} (h : Records law start recorded call)
    {stronger : OpenNames → Prop} (hstart : ∀ names, stronger names → start names) :
    Records law stronger recorded call :=
  fun steps hsteps => h steps (hstart _ hsteps)

theorem pure (value : α) : Records law start (pure value) (pure value) := by
  intro steps _
  refine ⟨.ok value, [], rfl, ?_, rfl, .nil⟩
  rw [List.append_nil]
  rfl

/-- A call that enters no block is its own record. -/
theorem quietly {call : Emitter α} (h : call.Restores) :
    Records law start (.quietly call) call := by
  intro steps _
  refine ⟨(call.outcome (Session.ofSteps steps).names).1, [], ?_, ?_, rfl, .nil⟩
  · exact Prod.ext rfl (h _)
  · rw [List.append_nil]
    rfl

theorem raise (cause : Raised) :
    Records law start (Recorder.quietly (throw cause) : Recorder α) (throw cause) :=
  .quietly fun _ => rfl

theorem bind {recorded : Recorder α} {call : Emitter α} {recordedNext : α → Recorder β}
    {next : α → Emitter β} (h : Records law start recorded call)
    (hnext : ∀ value, Records law start (recordedNext value) (next value)) :
    Records law start (recorded >>= recordedNext) (call >>= next) := by
  intro steps hstart
  obtain ⟨result, made, hcall, hrecorded, hback, hlaw⟩ := h steps hstart
  cases result with
  | error cause =>
      refine ⟨.error cause, made, ?_, ?_, hback, hlaw⟩
      · rw [Emitter.outcome_bind, hcall]
      · rw [Recorder.outcome_bind, hrecorded]
  | ok value =>
      -- The second call starts where the first one did.
      have hsteps : Session.ofSteps (steps ++ made) = Session.ofSteps steps := by
        rw [Session.ofSteps_append, hback]
      obtain ⟨result, more, hcall', hrecorded', hback', hlaw'⟩ :=
        hnext value (steps ++ made) (by rwa [hsteps])
      rw [hsteps] at hcall' hback' hlaw'
      refine ⟨result, made ++ more, ?_, ?_, ?_, hlaw.append (by rwa [hback])⟩
      · rw [Emitter.outcome_bind, hcall]
        exact hcall'
      · rw [Recorder.outcome_bind, hrecorded, ← List.append_assoc]
        exact hrecorded'
      · rw [Session.after_append, hback, hback']

theorem mapM {recorded : β → Recorder α} {call : β → Emitter α} (list : List β)
    (h : ∀ b ∈ list, Records law start (recorded b) (call b)) :
    Records law start (list.mapM recorded) (list.mapM call) := by
  induction list with
  | nil => exact .pure []
  | cons b rest ih =>
      simp only [List.mapM_cons]
      refine (h b (List.mem_cons_self ..)).bind fun value => ?_
      exact (ih fun b hb => h b (List.mem_cons_of_mem _ hb)).bind fun values => .pure _

section Entering

variable {kind : DeclarationKind} {name? : Option String} {recorded : Bool → Recorder α}
  {call : Bool → Emitter α}

/-- What happens inside a block: its own steps if it is entered, and none if it is refused. -/
theorem inside_block (hadmits : law.Admits start inside kind name?)
    (hinside : Records law inside (recorded true) (call true)) (value : α)
    (hrecorded : recorded false = Pure.pure value) (hcall : call false = Pure.pure value)
    {steps : List BlockStep} {outer inner : Session} (houter : Session.ofSteps steps = outer)
    (hinner : (outer.step (.enter kind name?)).1 = inner) (hstart : start outer.names) :
    ∃ result made,
      (Emitter.entering kind name? call).outcome outer.names = (result, outer.names) ∧
      (recorded (outer.names.enter kind name?).isSome).outcome (steps ++ [.enter kind name?]) =
        (result, steps ++ [.enter kind name?] ++ made) ∧
      inner.after made = inner ∧ law.HoldsOf inner made ∧ law inner.names .leave := by
  have hleave := (hadmits _ hstart).2
  have hnames : inner.names = (outer.names.enter kind name?).getD outer.names := by
    rw [← hinner]
    exact Session.enter_names ..
  cases hentered : outer.names.enter kind name? with
  | none =>
      rw [hentered] at hnames hleave
      refine ⟨.ok value, [], ?_, ?_, rfl, .nil, ?_⟩
      · rw [Emitter.outcome_entering_of_refused hentered, hcall]
        rfl
      · rw [Option.isSome_none, hrecorded, List.append_nil]
        rfl
      · rwa [hnames]
  | some names =>
      rw [hentered, Option.getD_some] at hnames
      rw [hentered, ← hnames] at hleave
      have hwithin : Session.ofSteps (steps ++ [.enter kind name?]) = inner := by
        rw [Session.ofSteps_append, houter, ← hinner]
        rfl
      obtain ⟨result, made, hresult, hmade, hback, hlaw⟩ :=
        hinside (steps ++ [.enter kind name?]) (by rw [hwithin]; exact hleave.1)
      rw [hwithin] at hresult hback hlaw
      refine ⟨result, made, ?_, ?_, hback, hlaw, hleave.2⟩
      · rw [hnames] at hresult
        exact Emitter.outcome_entering_of_entered hentered hresult
      · rw [Option.isSome_some, hmade]

/-- A block adds the step that enters it, the steps inside and the step that leaves it. -/
theorem entering (hadmits : law.Admits start inside kind name?)
    (hinside : Records law inside (recorded true) (call true)) (value : α)
    (hrecorded : recorded false = Pure.pure value) (hcall : call false = Pure.pure value) :
    Records law start (Recorder.entering kind name? recorded)
      (Emitter.entering kind name? call) := by
  intro steps hstart
  obtain ⟨result, made, hresult, hmade, hback, hlaw, hleave⟩ :=
    inside_block hadmits hinside value hrecorded hcall rfl rfl hstart
  refine ⟨result, .enter kind name? :: (made ++ [.leave]), hresult, ?_, ?_, ?_⟩
  · rw [Recorder.outcome_entering, hmade]
    show (_, steps ++ [.enter kind name?] ++ made ++ [.leave]) = _
    rw [List.append_assoc, List.append_assoc]
    rfl
  · rw [Session.after_cons]
    rw [Session.after_append, BlockStep.step, hback]
    exact Session.leave_enter ..
  · exact .block (hadmits _ hstart).1 hback hlaw hleave

end Entering

theorem enteringGroup {registry : Registry} {ref? : Option String}
    {recorded : Sequence → Recorder (List α)} {call : Sequence → Emitter (List α)}
    (hadmits : ∀ name, law.Admits start start .group (some name))
    (hcontent : ∀ name content, (registry.groups.value? name).bind Group.sequence? = some content →
      Records law start (recorded content) (call content)) :
    Records law start (BlockCalls.recorder.enteringGroup registry ref? recorded)
      (Emitter.enteringGroup registry ref? call) := by
  simp only [BlockCalls.enteringGroup, Emitter.enteringGroup, BlockCalls.recorder_entering]
  cases nonempty? ref? with
  | none => exact .pure _
  | some name =>
      simp only
      cases hsequence : (registry.groups.value? name).bind Group.sequence? with
      | none => exact .pure _
      | some content =>
          exact .entering (hadmits name) (hcontent name content hsequence) [] rfl rfl

end Records

/-! ## One induction on the limit -/

/-- A law admits whatever a walk of a schema can enter: the definitions where `start` holds, and the
groups and inline types where `inside` holds. -/
structure StepLaw.AdmitsParts (law : StepLaw) (schema : Schema) (start inside : OpenNames → Prop) :
    Prop where
  start_inside : ∀ names, start names → inside names
  definition : ∀ name, law.Admits start inside .complexType (some name)
  inline : ∀ element type, schema.Contains (.element element) →
    element.complexType? = some type → law.Admits inside inside .complexType type.name?
  group : ∀ name, law.Admits inside inside .group (some name)

namespace Conversion

/-- The calls of one limit on the declarations of a schema are recorded. A complex type may be
entered from wherever the law admits it. -/
structure CallsRecord (c : Conversion) (schema : Schema) (law : StepLaw)
    (inside : OpenNames → Prop) (limit : Nat) : Prop where
  element : ∀ element inSequence forceArray, schema.Contains (.element element) →
    Records law inside (c.walkElement .recorder limit element inSequence forceArray)
      (c.callElement limit element inSequence forceArray)
  complexType : ∀ type start, schema.Contains (.complexType type) →
    law.Admits start inside .complexType type.name? →
    Records law start (c.walkComplexType .recorder limit type) (c.callComplexType limit type)
  object : ∀ sequence? attributes,
    (∀ sequence, sequence? = some sequence → schema.Contains (.sequence sequence)) →
    Records law inside (c.walkObject .recorder limit sequence? attributes)
      (c.callObject limit sequence? attributes)
  sequence : ∀ optional repeats sequence?,
    (∀ sequence, sequence? = some sequence → schema.Contains (.sequence sequence)) →
    Records law inside (c.walkSequence .recorder limit optional repeats sequence?)
      (c.callSequence limit optional repeats sequence?)

section Induction

variable {c : Conversion} {schema : Schema} {law : StepLaw} {start inside : OpenNames → Prop}
  {limit : Nat}

theorem CallsRecord.element_succ (ih : c.CallsRecord schema law inside limit)
    (hadmits : law.AdmitsParts schema start inside) (element : Element)
    (inSequence forceArray : Bool) (helement : schema.Contains (.element element)) :
    Records law inside (c.walkElement .recorder (limit + 1) element inSequence forceArray)
      (c.callElement (limit + 1) element inSequence forceArray) := by
  simp only [walkElement, callElement, BlockCalls.recorder_quietly]
  cases nonempty? element.name? with
  | none => exact .pure _
  | some name =>
      simp only
      split
      · exact (ih.element element false false helement).bind fun items? => .pure _
      · -- Simple types and type names enter no block, so only an inline type adds steps.
        have hquiet := (c.callTypeKeywords_computes limit element).restores
        refine (Records.quietly hquiet).bind fun keywords? => ?_
        cases keywords? with
        | none => exact .pure _
        | some keywords =>
            cases htype : element.complexType? with
            | none => exact .pure _
            | some type =>
                have hinline := hadmits.inline element type helement htype
                exact (ih.complexType type inside (.inline helement htype) hinline).bind
                  fun schema => .pure _

theorem CallsRecord.complexType_succ (ih : c.CallsRecord schema law inside limit)
    (type : ComplexType) (start : OpenNames → Prop) (htype : schema.Contains (.complexType type))
    (hadmits : law.Admits start inside .complexType type.name?) :
    Records law start (c.walkComplexType .recorder (limit + 1) type)
      (c.callComplexType (limit + 1) type) := by
  have hcontains : ∀ sequence, (contentShape type).sequence? = some sequence →
      schema.Contains (.sequence sequence) := fun _ => htype.of_contentShape
  simp only [walkComplexType, callComplexType, BlockCalls.recorder_entering]
  -- Refused types are the same on both sides, so what remains is the block of an entered one.
  refine .entering hadmits ?_ .unconstrained rfl rfl
  simp only
  cases hshape : contentShape type with
  | extended base extension =>
      rw [hshape] at hcontains
      exact (ih.object extension.sequence? extension.attributes hcontains).bind
        fun object => .pure _
  | text base extension => exact .pure _
  | plain sequence? =>
      rw [hshape] at hcontains
      exact ih.object sequence? [] hcontains

theorem CallsRecord.object_succ (ih : c.CallsRecord schema law inside limit)
    (sequence? : Option Sequence) (attributes : List Attribute)
    (hcontains : ∀ sequence, sequence? = some sequence → schema.Contains (.sequence sequence)) :
    Records law inside (c.walkObject .recorder (limit + 1) sequence? attributes)
      (c.callObject (limit + 1) sequence? attributes) := by
  simp only [walkObject, callObject]
  exact (ih.sequence false false sequence? hcontains).bind fun elements => .pure _

theorem CallsRecord.sequence_succ (ih : c.CallsRecord schema law inside limit)
    (hc : c.registry = Registry.ofSchema schema)
    (hadmits : law.AdmitsParts schema start inside) (optional repeats : Bool)
    (sequence? : Option Sequence)
    (hcontains : ∀ sequence, sequence? = some sequence → schema.Contains (.sequence sequence)) :
    Records law inside (c.walkSequence .recorder (limit + 1) optional repeats sequence?)
      (c.callSequence (limit + 1) optional repeats sequence?) := by
  cases sequence? with
  | none => exact .pure _
  | some sequence =>
      have hsequence := hcontains sequence rfl
      simp only [walkSequence, callSequence]
      refine (Records.mapM _ fun element helement =>
        (ih.element element true _ (.member hsequence helement)).bind fun schema? =>
          .pure _).bind fun own => ?_
      refine (Records.mapM _ fun ref _ =>
        .enteringGroup hadmits.group fun name content hcontent => ?_).bind fun below => .pure _
      -- The content of a registered group is a part of the schema.
      rw [hc] at hcontent
      obtain ⟨group, hgroup, hown⟩ := Option.bind_eq_some_iff.1 hcontent
      refine ih.sequence _ _ (some content) fun _ heq => ?_
      cases heq
      exact .group (Registry.mem_of_groups_value? hgroup).1 hown

theorem callsRecord (hc : c.registry = Registry.ofSchema schema)
    (hadmits : law.AdmitsParts schema start inside) (limit : Nat) :
    c.CallsRecord schema law inside limit := by
  induction limit with
  | zero =>
      exact ⟨fun _ _ _ _ => .raise _, fun _ _ _ _ => .raise _, fun _ _ _ => .raise _,
        fun _ _ _ _ => .raise _⟩
  | succ limit ih =>
      exact ⟨ih.element_succ hadmits, ih.complexType_succ, ih.object_succ,
        ih.sequence_succ hc hadmits⟩

/-! ## Documents -/

theorem recordComplexDefinition_records (hc : c.registry = Registry.ofSchema schema)
    (hadmits : law.AdmitsParts schema start inside) (limit : Nat) {type : ComplexType}
    (htype : type ∈ schema.complexTypes) :
    Records law start (c.walkComplexDefinition .recorder limit type)
      (c.callComplexDefinition limit type) := by
  simp only [walkComplexDefinition, callComplexDefinition]
  cases hname : nonempty? type.name? with
  | none => exact .pure _
  | some name =>
      have hdefinition := hadmits.definition name
      rw [← ((nonempty?_eq_some_iff ..).1 hname).1] at hdefinition
      exact ((callsRecord hc hadmits limit).complexType type start (.complexType htype)
        hdefinition).bind fun schema => .pure _

theorem recordSchemaDocument_records (hc : c.registry = Registry.ofSchema schema)
    (hadmits : law.AdmitsParts schema start inside) (limit : Nat) :
    Records law start (c.walkSchemaDocument .recorder limit schema)
      (c.callSchemaDocument limit schema) := by
  cases limit with
  | zero => exact .raise _
  | succ limit =>
      have hcalls := callsRecord hc hadmits limit
      -- Every call brings the session back, so each of them starts where `start` holds.
      simp only [walkSchemaDocument, callSchemaDocument, BlockCalls.recorder_quietly]
      refine (Records.mapM _ fun element helement =>
        ((hcalls.element element false false (.element helement)).mono
          hadmits.start_inside).bind fun schema? => .pure _).bind fun roots => ?_
      refine (Records.mapM _ fun type _ =>
        .quietly (c.callSimpleDefinition_computes limit type).restores).bind fun simple => ?_
      refine (Records.mapM _ fun type htype =>
        recordComplexDefinition_records hc hadmits limit htype).bind fun complex => ?_
      exact .pure _

/-- The call on a document is recorded. -/
theorem recordDocument_records {document : Document}
    (hc : c.registry = Registry.ofDocument document)
    (hadmits : ∀ schema, document.schema? = some schema → law.AdmitsParts schema start inside)
    (limit : Nat) :
    Records law start (c.walkDocument .recorder limit document) (c.callDocument limit document) := by
  rw [walkDocument, callDocument]
  cases hschema : document.schema? with
  | none => exact .raise _
  | some schema =>
      simp only
      split
      · exact .raise _
      · simp only [Registry.ofDocument, hschema] at hc
        exact recordSchemaDocument_records hc (hadmits schema hschema) limit

end Induction

/-- **Recorded conversions are faithful.** Whatever the document and the limit, and whether names are
refused or not, a walk gives the same with the blocks of recorders as with those of emitters, and it
leaves every block that it enters. -/
theorem recordDocument_faithful {c : Conversion} {document : Document}
    (hc : c.registry = Registry.ofDocument document) (limit : Nat) :
    ((c.walkDocument .recorder limit document).outcome []).1 =
        ((c.walkDocument .emitter limit document).outcome {}).1 ∧
      ({} : Session).after ((c.walkDocument .recorder limit document).outcome []).2 = {} := by
  have hadmits : ∀ schema, document.schema? = some schema →
      StepLaw.AdmitsParts (fun _ _ => True) schema (fun _ => True) fun _ => True :=
    fun schema _ =>
      { start_inside := fun _ _ => trivial
        definition := fun _ => StepLaw.admits_of_forall fun _ _ => trivial
        inline := fun _ _ _ _ => StepLaw.admits_of_forall fun _ _ => trivial
        group := fun _ => StepLaw.admits_of_forall fun _ _ => trivial }
  obtain ⟨result, made, hcall, hrecorded, hback, -⟩ :=
    recordDocument_records hc hadmits limit [] trivial
  rw [walkDocument_emitter, hrecorded]
  exact ⟨(congrArg Prod.fst hcall).symm, hback⟩

end Conversion

end SchemaBridge
