import SchemaBridge.Proofs.JsonSchema.Reuse
import SchemaBridge.Proofs.Paths.Depth

/-!
# Calls of a collector accumulate

All calls of a collector share one set of open names and one set of paths, and a call changes both
while it runs. All the same it leaves the names as it finds them, and it never looks at the paths: it
adds to them what it would find alone, and it returns or raises as it would alone
(`Collecting.Accumulates`). Blocks and sequences of calls keep this law, and one induction on the
limit carries it through all calls (`CollectedKind.callsAccumulate`), whatever is registered.

Calls that only look at the open names change nothing at all (`Collecting.Inspects`); the search for
a list is one of them (`Collecting.callListType_inspects`).
-/

set_option autoImplicit false

namespace SchemaBridge

open Xsd

namespace Collecting

variable {α β : Type}

/-! ## Outcomes of composed calls -/

theorem outcome_bind_ok {call : Collecting α} {state after : CollectorState} {value : α}
    (next : α → Collecting β) (h : call.outcome state = (.ok value, after)) :
    (call >>= next).outcome state = (next value).outcome after := by
  simp only [outcome, ExceptT.run_bind, StateT.run_bind] at h ⊢
  rw [h]
  rfl

theorem outcome_bind_error {call : Collecting α} {state after : CollectorState} {cause : Raised}
    (next : α → Collecting β) (h : call.outcome state = (.error cause, after)) :
    (call >>= next).outcome state = (.error cause, after) := by
  simp only [outcome, ExceptT.run_bind, StateT.run_bind] at h ⊢
  rw [h]
  rfl

/-- A block that is refused opens nothing and closes nothing. -/
theorem outcome_entering_open {kind : DeclarationKind} {name : String}
    (block : Bool → Collecting α) {state : CollectorState}
    (h : state.names.isOpen kind name = true) :
    (entering kind (some name) block).outcome state = (block false).outcome state := by
  show outcome (if state.names.isOpen kind name then _ else _) state = _
  rw [if_pos h]

/-- The state with a name closed. -/
def closing (kind : DeclarationKind) (state : CollectorState) : CollectorState :=
  { state with names := state.names.pop kind }

/-- A block that opens a name closes it with whatever result it has. -/
theorem outcome_entering_closed {kind : DeclarationKind} {name : String}
    (block : Bool → Collecting α) {state : CollectorState}
    (h : state.names.isOpen kind name = false) :
    (entering kind (some name) block).outcome state =
      (((block true).outcome { state with names := state.names.push kind name }).1,
        closing kind
          ((block true).outcome { state with names := state.names.push kind name }).2) := by
  show outcome (if state.names.isOpen kind name then _ else _) state = _
  rw [if_neg (by simp [h])]
  exact run_tryFinally (block true) (closing kind) { state with names := state.names.push kind name }

/-! ## The law of all calls -/

/-- What a call gives and finds when some names are open and no path was found before. -/
def alone (call : Collecting α) (names : OpenNames) : Except Raised α × CollectorState :=
  call.outcome { names }

/-- From a state, a call gives what it gives alone, leaves the open names as it finds them, and adds
to the paths those that it finds alone. -/
structure AccumulatesFrom (call : Collecting α) (state : CollectorState) : Prop where
  result_eq : (call.outcome state).1 = (call.alone state.names).1
  names_eq : (call.outcome state).2.names = state.names
  mem_paths_iff : ∀ path, path ∈ (call.outcome state).2.paths ↔
    path ∈ state.paths ∨ path ∈ (call.alone state.names).2.paths

/-- **The law of all calls**, from every state. -/
def Accumulates (call : Collecting α) : Prop :=
  ∀ state, call.AccumulatesFrom state

/-- A call that only looks at the open names. -/
def Inspects (call : Collecting α) (result : OpenNames → Except Raised α) : Prop :=
  ∀ state, call.outcome state = (result state.names, state)

theorem Inspects.accumulates {call : Collecting α} {result : OpenNames → Except Raised α}
    (h : call.Inspects result) : call.Accumulates := by
  intro state
  have halone : call.alone state.names = (result state.names, { names := state.names }) :=
    h { names := state.names }
  refine ⟨?_, ?_, fun path => ?_⟩
  · rw [h, halone]
  · rw [h]
  · rw [h, halone]
    simp

theorem Inspects.pure (value : α) : Inspects (pure value) fun _ => .ok value :=
  fun _ => rfl

theorem Inspects.tooDeep : Inspects (throw .tooDeep : Collecting α) fun _ => .error .tooDeep :=
  fun _ => rfl

theorem Accumulates.pure (value : α) : Accumulates (pure value) :=
  (Inspects.pure value).accumulates

theorem Accumulates.tooDeep : Accumulates (throw .tooDeep : Collecting α) :=
  Inspects.tooDeep.accumulates

theorem outcome_addPath (path : String) (state : CollectorState) :
    (addPath path).outcome state = (.ok (), { state with paths := state.paths.insert path }) := rfl

theorem Accumulates.addPath (path : String) : Accumulates (addPath path) := by
  intro state
  refine ⟨rfl, rfl, fun other => ?_⟩
  simp only [alone, outcome_addPath, List.mem_insert_iff, List.not_mem_nil, or_false]
  exact Or.comm

theorem Accumulates.bind {call : Collecting α} {next : α → Collecting β} (h : call.Accumulates)
    (hnext : ∀ value, (next value).Accumulates) : (call >>= next).Accumulates := by
  intro state
  have hresult := (h state).result_eq
  have hnames := (h state).names_eq
  have hpaths := (h state).mem_paths_iff
  have hnames' := (h { names := state.names }).names_eq
  unfold alone at hresult hpaths
  rcases hcall : call.outcome state with ⟨result, after⟩
  rcases halone : call.outcome { names := state.names } with ⟨result', after'⟩
  simp only [hcall, halone] at hresult hnames hpaths hnames'
  subst hresult
  cases result with
  | error cause =>
      have hboth := outcome_bind_error next hcall
      have hboth' : (call >>= next).alone state.names = _ := outcome_bind_error next halone
      refine ⟨?_, ?_, fun path => ?_⟩
      · rw [hboth, hboth']
      · rw [hboth, hnames]
      · rw [hboth, hboth', hpaths]
  | ok value =>
      -- The second call starts with the same names, whatever the first one was added to.
      have hboth := outcome_bind_ok next hcall
      have hboth' : (call >>= next).alone state.names = _ := outcome_bind_ok next halone
      have hafter := hnext value after
      have hafter' := hnext value after'
      refine ⟨?_, ?_, fun path => ?_⟩
      · rw [hboth, hboth', hafter.result_eq, hafter'.result_eq, hnames, hnames']
      · rw [hboth, hafter.names_eq, hnames]
      · rw [hboth, hboth', hafter.mem_paths_iff, hafter'.mem_paths_iff, hpaths, hnames, hnames',
          or_assoc]

theorem Accumulates.forM {call : β → Collecting Unit} {list : List β}
    (h : ∀ b ∈ list, (call b).Accumulates) : (list.forM call).Accumulates := by
  induction list with
  | nil => exact .pure ()
  | cons b rest ih =>
      exact (h b (List.mem_cons_self ..)).bind fun _ =>
        ih fun b hb => h b (List.mem_cons_of_mem _ hb)

theorem Accumulates.entering {kind : DeclarationKind} {name? : Option String}
    {block : Bool → Collecting α} (hinside : (block true).Accumulates)
    (houtside : (block false).Accumulates) : (entering kind name? block).Accumulates := by
  intro state
  cases name? with
  | none => exact hinside state
  | some name =>
      -- Whether the name is open is the same with and without earlier paths.
      cases hopen : state.names.isOpen kind name with
      | true =>
          have hblock := outcome_entering_open block hopen
          have hblock' : (Collecting.entering kind (some name) block).alone state.names = _ :=
            outcome_entering_open block hopen
          obtain ⟨hresult, hnames, hpaths⟩ := houtside state
          exact ⟨by rw [hblock, hblock', hresult, alone], by rw [hblock, hnames],
            fun path => by rw [hblock, hblock', hpaths, alone]⟩
      | false =>
          have hblock := outcome_entering_closed block hopen
          have hblock' : (Collecting.entering kind (some name) block).alone state.names = _ :=
            outcome_entering_closed block hopen
          obtain ⟨hresult, hnames, hpaths⟩ :=
            hinside { state with names := state.names.push kind name }
          refine ⟨?_, ?_, fun path => ?_⟩
          · rw [hblock, hblock', hresult, alone]
          · rw [hblock]
            simp only [closing, hnames, OpenNames.pop_push]
          · rw [hblock, hblock']
            exact hpaths path

/-! ## Calls that return -/

/-- When some names are open the call returns, and alone it finds the given paths. -/
def Finds (call : Collecting Unit) (names : OpenNames) (found : List String) : Prop :=
  (call.alone names).1 = .ok () ∧ ∀ path, path ∈ (call.alone names).2.paths ↔ path ∈ found

section Finds

variable {names inner : OpenNames} {found first second : List String}

theorem Finds.nothing : Finds (pure ()) names [] :=
  ⟨rfl, fun _ => Iff.rfl⟩

theorem Finds.addPath (path : String) : Finds (addPath path) names [path] :=
  ⟨rfl, fun _ => Iff.rfl⟩

/-- One call after another finds what both find. -/
theorem Finds.bind {call : Collecting Unit} {next : Unit → Collecting Unit}
    (hcall : call.Finds names first) (haccumulates : call.Accumulates)
    (hnext : (next ()).Finds names second) (hnextAccumulates : (next ()).Accumulates) :
    (call >>= next).Finds names (first ++ second) := by
  obtain ⟨hresult, hpaths⟩ := hcall
  have hnames := (haccumulates { names }).names_eq
  unfold alone at hresult hpaths
  rcases houtcome : call.outcome { names } with ⟨result, after⟩
  simp only [houtcome] at hresult hpaths hnames
  subst hresult
  have hboth : (call >>= next).alone names = (next ()).outcome after :=
    outcome_bind_ok next houtcome
  have hafter := hnextAccumulates after
  refine ⟨?_, fun path => ?_⟩
  · rw [hboth, hafter.result_eq, hnames, hnext.1]
  · rw [hboth, hafter.mem_paths_iff, hnames, hpaths, hnext.2, List.mem_append]

/-- After looking at the open names a call goes on as if it had not. -/
theorem Finds.of_inspects {call : Collecting α} {next : α → Collecting Unit}
    {result : OpenNames → Except Raised α} {value : α} (hcall : call.Inspects result)
    (hvalue : result names = .ok value) (hnext : (next value).Finds names found) :
    (call >>= next).Finds names found := by
  have houtcome : call.outcome { names } = (.ok value, { names }) := by
    rw [hcall, hvalue]
  have hboth : (call >>= next).alone names = (next value).alone names :=
    outcome_bind_ok next houtcome
  unfold Finds
  rw [hboth]
  exact hnext

theorem Finds.forM {call : β → Collecting Unit} {find? : β → Option (List String)}
    {list : List β} {founds : List (List String)}
    (haccumulates : ∀ b ∈ list, (call b).Accumulates)
    (hfinds : ∀ b ∈ list, ∀ found, find? b = some found → (call b).Finds names found)
    (hfounds : list.mapM find? = some founds) : (list.forM call).Finds names founds.flatten := by
  induction list generalizing founds with
  | nil =>
      cases hfounds
      exact .nothing
  | cons b rest ih =>
      rw [List.mapM_cons] at hfounds
      obtain ⟨found, hfound, hrest⟩ := Option.bind_eq_some_iff.1 hfounds
      obtain ⟨others, hothers, heq⟩ := Option.bind_eq_some_iff.1 hrest
      cases heq
      have hmem : ∀ other ∈ rest, other ∈ b :: rest := fun _ h => List.mem_cons_of_mem _ h
      exact (hfinds b (List.mem_cons_self ..) found hfound).bind
        (haccumulates b (List.mem_cons_self ..))
        (ih (fun other h => haccumulates other (hmem other h))
          (fun other h => hfinds other (hmem other h)) hothers)
        (.forM fun other h => haccumulates other (hmem other h))

/-- A block that is entered finds what its call finds inside the name. -/
theorem Finds.entered {kind : DeclarationKind} {name? : Option String}
    {block : Bool → Collecting Unit} (henter : names.enter kind name? = some inner)
    (h : (block true).Finds inner found) : (Collecting.entering kind name? block).Finds names found := by
  cases name? with
  | none =>
      cases henter
      exact h
  | some name =>
      obtain ⟨hopen, rfl⟩ := (OpenNames.enter_some_eq_some_iff ..).1 henter
      have hblock : (Collecting.entering kind (some name) block).alone names = _ :=
        outcome_entering_closed block hopen
      unfold Finds
      rw [hblock]
      exact h

/-- A block that is refused finds what its call finds outside. -/
theorem Finds.refused {kind : DeclarationKind} {name? : Option String}
    {block : Bool → Collecting Unit} (henter : names.enter kind name? = none)
    (h : (block false).Finds names found) :
    (Collecting.entering kind name? block).Finds names found := by
  cases name? with
  | none => cases henter
  | some name =>
      cases hopen : names.isOpen kind name with
      | false =>
          simp only [OpenNames.enter, hopen] at henter
          cases henter
      | true =>
          have hblock : (Collecting.entering kind (some name) block).alone names = _ :=
            outcome_entering_open block hopen
          unfold Finds
          rw [hblock]
          exact h

end Finds

/-! ## Looking at the open names -/

theorem Inspects.return {call : Collecting α} {result : OpenNames → Except Raised α}
    (h : call.Inspects result) (f : α → β) :
    Inspects (do return f (← call)) fun names => (result names).map f := by
  intro state
  show _ = ((result state.names).map f, state)
  have hcall := h state
  cases hresult : result state.names with
  | error cause =>
      rw [hresult] at hcall
      exact outcome_bind_error _ hcall
  | ok value =>
      rw [hresult] at hcall
      exact outcome_bind_ok _ hcall

theorem Inspects.congr {call : Collecting α} {result other : OpenNames → Except Raised α}
    (h : call.Inspects result) (heq : ∀ names, result names = other names) :
    call.Inspects other := by
  intro state
  rw [h state, heq]

theorem Inspects.entering {kind : DeclarationKind} {name? : Option String}
    {block : Bool → Collecting α} {inside outside : OpenNames → Except Raised α}
    (hinside : (block true).Inspects inside) (houtside : (block false).Inspects outside) :
    (Collecting.entering kind name? block).Inspects fun names =>
      (names.enter kind name?).elim (outside names) inside := by
  intro state
  cases name? with
  | none => exact hinside state
  | some name =>
      cases hopen : state.names.isOpen kind name with
      | true =>
          rw [outcome_entering_open block hopen, houtside state]
          simp only [OpenNames.enter, hopen, if_true, Option.elim_none]
      | false =>
          rw [outcome_entering_closed block hopen,
            hinside { state with names := state.names.push kind name }]
          simp [OpenNames.enter, hopen, closing]

/-- Following restrictions gives what the bounded search gives, and changes nothing. -/
theorem callListType_inspects (registry : Registry) (limit : Nat) (type : SimpleType) :
    (callListType registry limit type).Inspects fun names =>
      Emitter.orTooDeep (resolveListTypeWithin registry limit names type) := by
  induction limit generalizing type with
  | zero => exact .tooDeep
  | succ limit ih =>
      simp only [callListType, resolveListTypeWithin, Registry.enterSimpleType?_eq]
      cases type.list? with
      | some list => exact .pure _
      | none =>
          simp only
          cases registry.simpleType? (type.restriction?.bind Restriction.base?) with
          | none => exact .pure _
          | some base =>
              refine .congr (.entering (ih base) (.pure none)) fun names => ?_
              cases names.enter .simpleType (type.restriction?.bind Restriction.base?) <;> rfl

end Collecting

theorem Emitter.map_orTooDeep {α β : Type} (f : α → β) (result? : Option α) :
    (orTooDeep result?).map f = orTooDeep (result?.map f) := by
  cases result? <;> rfl

namespace CollectedKind

variable {kind : CollectedKind} {registry : Registry}

/-! ## Every call adds up -/

theorem callMatches_accumulates (limit : Nat) (element : Element) (inSequence forceArray : Bool) :
    (kind.callMatches registry limit element inSequence forceArray).Accumulates := by
  cases kind with
  | arrays options => exact .pure _
  | lists =>
      simp only [callMatches]
      split
      · exact .pure _
      · cases registry.simpleType? element.typeName? with
        | none => exact .pure _
        | some type =>
            have hlist := Collecting.callListType_inspects registry limit type
            exact (hlist.return Option.isSome).accumulates

/-- Calls of one limit add up. -/
structure CallsAccumulate (kind : CollectedKind) (registry : Registry) (limit : Nat) : Prop where
  element : ∀ element above inSequence forceArray,
    (kind.callElement registry limit element above inSequence forceArray).Accumulates
  complexType : ∀ type path, (kind.callComplexType registry limit type path).Accumulates
  sequence : ∀ sequence? path repeats,
    (kind.callSequence registry limit sequence? path repeats).Accumulates

/-- The call for a type that may be missing. -/
theorem CallsAccumulate.optionalType {limit : Nat} (h : kind.CallsAccumulate registry limit)
    (type? : Option ComplexType) (path : List String) :
    Collecting.Accumulates
      (match type? with
      | none => return ()
      | some type => kind.callComplexType registry limit type path) := by
  cases type? with
  | none => exact .pure ()
  | some type => exact h.complexType type path

/-- The call for a reference to a group. -/
theorem CallsAccumulate.group {limit : Nat} (h : kind.CallsAccumulate registry limit) (ref : Group)
    (path : List String) (repeats : Bool) :
    Collecting.Accumulates
      (match (registry.group? ref.ref?).bind Group.sequence? with
      | none => return ()
      | some content =>
          Collecting.entering .group ref.ref? fun
            | false => return ()
            | true => kind.callSequence registry limit (some content) path repeats) := by
  cases (registry.group? ref.ref?).bind Group.sequence? with
  | none => exact .pure ()
  | some content => exact .entering (h.sequence (some content) path repeats) (.pure ())

theorem CallsAccumulate.element_succ {limit : Nat} (ih : kind.CallsAccumulate registry limit)
    (element : Element) (above : List String) (inSequence forceArray : Bool) :
    (kind.callElement registry (limit + 1) element above inSequence forceArray).Accumulates := by
  simp only [callElement]
  cases nonempty? element.name? with
  | none => exact .pure ()
  | some name =>
      -- What is below is collected after the path, whether the path is added or not.
      have hbelow := ih.optionalType
        (element.complexType?.or (registry.complexType? element.typeName?)) (above ++ [name])
      refine (callMatches_accumulates limit element inSequence forceArray).bind fun isMatch => ?_
      cases isMatch with
      | false => exact hbelow
      | true => exact (Collecting.Accumulates.addPath _).bind fun _ => hbelow

theorem CallsAccumulate.complexType_succ {limit : Nat} (ih : kind.CallsAccumulate registry limit)
    (type : ComplexType) (path : List String) :
    (kind.callComplexType registry (limit + 1) type path).Accumulates := by
  simp only [callComplexType]
  refine .entering ((ih.sequence type.sequence? path false).bind fun _ => ?_) (.pure ())
  cases type.complexContent? with
  | none => exact .pure ()
  | some extension =>
      exact (ih.sequence extension.sequence? path false).bind fun _ =>
        ih.optionalType (registry.complexType? extension.base?) path

theorem CallsAccumulate.sequence_succ {limit : Nat} (ih : kind.CallsAccumulate registry limit)
    (sequence? : Option Sequence) (path : List String) (repeats : Bool) :
    (kind.callSequence registry (limit + 1) sequence? path repeats).Accumulates := by
  cases sequence? with
  | none => exact .pure ()
  | some sequence =>
      simp only [callSequence]
      have hown : (sequence.elements.forM fun element =>
          kind.callElement registry limit element path true repeats).Accumulates :=
        .forM fun element _ => ih.element element path true repeats
      exact hown.bind fun _ => .forM fun ref _ => ih.group ref path (kind.groupRepeats ref repeats)

/-- **Every call adds up**, whatever is registered and whatever is looked for. -/
theorem callsAccumulate (kind : CollectedKind) (registry : Registry) (limit : Nat) :
    kind.CallsAccumulate registry limit := by
  induction limit with
  | zero => exact ⟨fun _ _ _ _ => .tooDeep, fun _ _ => .tooDeep, fun _ _ _ => .tooDeep⟩
  | succ limit ih => exact ⟨ih.element_succ, ih.complexType_succ, ih.sequence_succ⟩

theorem callSchema_accumulates (kind : CollectedKind) (registry : Registry) (limit : Nat)
    (schema : Schema) : (kind.callSchema registry limit schema).Accumulates := by
  cases limit with
  | zero => exact .tooDeep
  | succ limit =>
      exact .forM fun element _ =>
        (kind.callsAccumulate registry limit).element element [] false false

end CollectedKind

end SchemaBridge
