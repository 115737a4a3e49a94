import SchemaBridge.Proofs.Paths.Accumulation

/-!
# Collectors add up

With enough depth a collector over a document's registry returns, and what it finds is what the
visits of the schema spell (`CollectedKind.callSchema_finds`). The calls do what the bounded walk does,
with one call more (`CollectedKind.CallsFind`).

A session of a collector adds to the paths what a fresh collector finds in each step, and leaves the
rest as it was. So schemas collected one after another give the union of what each gives alone
(`Collector.collects_are_unions`).
-/

set_option autoImplicit false

namespace SchemaBridge

open Xsd

namespace CollectedKind

variable {kind : CollectedKind} {registry : Registry}

/-! ## With enough depth calls find what the visits spell -/

/-- Whether a repeating reference above makes arrays of what is below it. -/
def forces (kind : CollectedKind) (repeats : Bool) : Bool :=
  match kind with
  | .arrays options => options.forcesArray repeats
  | .lists => false

theorem forces_false : kind.forces false = false := by
  cases kind <;> rfl

/-- The flag that is passed on across references says what the references above say. -/
theorem groupRepeats_forces (ref : Group) (repeats : Bool) :
    kind.groupRepeats ref (kind.forces repeats) =
      kind.forces (repeats || ref.occurs.isUnbounded) := by
  cases kind with
  | lists => rfl
  | arrays options =>
      simp only [groupRepeats, forces, Options.forcesArray]
      cases repeats <;> cases options.treatUnboundedAsArray <;> simp

/-- One more call of depth changes no result of the search for a list. -/
theorem resolveListTypeWithin_succ {limit : Nat} {names : OpenNames} {type : SimpleType}
    {list? : Option ListType} (h : resolveListTypeWithin registry limit names type = some list?) :
    resolveListTypeWithin registry (limit + 1) names type = some list? := by
  induction limit generalizing names type with
  | zero => cases h
  | succ limit ih =>
      rw [resolveListTypeWithin] at h ⊢
      cases hlist : type.list? with
      | some list =>
          rw [hlist] at h
          exact h
      | none =>
          simp only [hlist] at h ⊢
          cases henter : registry.enterSimpleType? names
              (type.restriction?.bind Restriction.base?) with
          | none =>
              rw [henter] at h
              exact h
          | some entered =>
              rw [henter] at h
              exact ih h

/-- A call that looks for an element finds out what the bounded test says with one call less. -/
theorem callMatches_inspects (kind : CollectedKind) (registry : Registry) (limit : Nat)
    (path : List String) (inSequence : Bool) (m : Member) :
    (kind.callMatches registry limit m.element inSequence (kind.forces m.repeats)).Inspects
      fun names => Emitter.orTooDeep
        (kind.isMatchWithin registry limit ⟨path, { m with names }, inSequence⟩) := by
  cases kind with
  | arrays options => exact .pure _
  | lists =>
      simp only [callMatches, isMatchWithin]
      split
      · exact .pure _
      · cases registry.simpleType? m.element.typeName? with
        | none => exact .pure _
        | some type =>
            have hlist := Collecting.callListType_inspects registry limit type
            refine .congr (hlist.return Option.isSome) fun names => ?_
            exact Emitter.map_orTooDeep Option.isSome _

theorem isMatchWithin_succ {limit : Nat} {v : Visit} {isMatch : Bool}
    (h : kind.isMatchWithin registry limit v = some isMatch) :
    kind.isMatchWithin registry (limit + 1) v = some isMatch := by
  cases kind with
  | arrays options => exact h
  | lists =>
      simp only [isMatchWithin] at h ⊢
      split
      · rwa [if_pos ‹_›] at h
      · rw [if_neg ‹_›] at h
        cases htype : registry.simpleType? v.member.element.typeName? with
        | none => rwa [htype] at h
        | some type =>
            simp only [htype, Option.map_eq_some_iff] at h ⊢
            obtain ⟨list?, hlist, heq⟩ := h
            exact ⟨list?, resolveListTypeWithin_succ hlist, heq⟩

/-! ### What the bounded walk finds -/

/-- The paths found in a type, which is entered under its name unless that is open. -/
def typePathsWithin (kind : CollectedKind) (registry : Registry) (depth : Nat) (path : List String)
    (names : OpenNames) (type : ComplexType) : Option (List String) :=
  match names.enter .complexType type.name? with
  | none => some []
  | some inner => kind.contentPathsWithin registry depth path inner type

/-- The paths found in the type that is registered under a name. -/
def registeredPathsWithin (kind : CollectedKind) (registry : Registry) (depth : Nat)
    (path : List String) (names : OpenNames) (name? : Option String) : Option (List String) :=
  match registry.enterComplexType? names name? with
  | none => some []
  | some (inner, type) => kind.contentPathsWithin registry depth path inner type

/-- A registered type is found under its own name. -/
theorem registeredPathsWithin_eq (hnamed : registry.TypesNamed) (kind : CollectedKind) (depth : Nat)
    (path : List String) (names : OpenNames) (name? : Option String) :
    kind.registeredPathsWithin registry depth path names name? =
      match registry.complexType? name? with
      | none => some []
      | some type => kind.typePathsWithin registry depth path names type := by
  rw [registeredPathsWithin, Registry.enterComplexType?_eq hnamed]
  cases registry.complexType? name? with
  | none => rfl
  | some type =>
      simp only [Option.bind_some, typePathsWithin]
      cases names.enter .complexType type.name? <;> rfl

/-- What is found at an element with a name: its path, if the element is looked for, and what is
found in its type. -/
theorem elementPathsWithin_succ {depth : Nat} {above : List String} {inSequence : Bool} {m : Member}
    {name : String} {found : List String} (hname : nonempty? m.element.name? = some name)
    (h : kind.elementPathsWithin registry (depth + 1) above inSequence m = some found) :
    ∃ isMatch below,
      kind.isMatchWithin registry depth ⟨above ++ [name], m, inSequence⟩ = some isMatch ∧
      (match m.element.complexType? with
        | some type => kind.typePathsWithin registry depth (above ++ [name]) m.names type
        | none => kind.registeredPathsWithin registry depth (above ++ [name]) m.names
            m.element.typeName?) = some below ∧
      found = (if isMatch then [joinedPath (above ++ [name])] else []) ++ below := by
  rw [elementPathsWithin] at h
  simp only [hname] at h
  obtain ⟨isMatch, hmatch, h⟩ := Option.bind_eq_some_iff.1 h
  refine ⟨isMatch, ?_⟩
  cases htype : m.element.complexType? with
  | some type =>
      simp only [htype, typePathsWithin] at h ⊢
      cases henter : m.names.enter .complexType type.name? with
      | none =>
          rw [henter] at h
          exact ⟨[], hmatch, rfl, (Option.some.inj h).symm⟩
      | some inner =>
          rw [henter] at h
          obtain ⟨below, hbelow, heq⟩ := Option.bind_eq_some_iff.1 h
          exact ⟨below, hmatch, hbelow, (Option.some.inj heq).symm⟩
  | none =>
      simp only [htype, registeredPathsWithin] at h ⊢
      cases henter : registry.enterComplexType? m.names m.element.typeName? with
      | none =>
          rw [henter] at h
          exact ⟨[], hmatch, rfl, (Option.some.inj h).symm⟩
      | some entered =>
          rw [henter] at h
          obtain ⟨below, hbelow, heq⟩ := Option.bind_eq_some_iff.1 h
          exact ⟨below, hmatch, hbelow, (Option.some.inj heq).symm⟩

/-- What is found in the content of a type that extends another: what is found in its sequence, in
that of the extension, and in the type it extends. -/
theorem contentPathsWithin_succ {depth : Nat} {path : List String} {names : OpenNames}
    {type : ComplexType} {extension : Extension} {found : List String}
    (hextension : type.complexContent? = some extension)
    (h : kind.contentPathsWithin registry (depth + 1) path names type = some found) :
    ∃ own added inherited,
      kind.sequencePathsWithin registry depth path names false false type.sequence? = some own ∧
      kind.sequencePathsWithin registry depth path names false false extension.sequence? =
        some added ∧
      kind.registeredPathsWithin registry depth path names extension.base? = some inherited ∧
      found = own ++ (added ++ inherited) := by
  rw [contentPathsWithin] at h
  obtain ⟨own, hown, h⟩ := Option.bind_eq_some_iff.1 h
  simp only [hextension] at h
  obtain ⟨added, hadded, h⟩ := Option.bind_eq_some_iff.1 h
  refine ⟨own, added, ?_⟩
  simp only [registeredPathsWithin]
  cases henter : registry.enterComplexType? names extension.base? with
  | none =>
      rw [henter] at h
      exact ⟨[], hown, hadded, rfl, (Option.some.inj h).symm⟩
  | some entered =>
      rw [henter] at h
      obtain ⟨inherited, hinherited, heq⟩ := Option.bind_eq_some_iff.1 h
      exact ⟨inherited, hown, hadded, hinherited, (Option.some.inj heq).symm⟩

/-! ### One induction on the depth -/

/-- With one call more than the bounded walk, calls find what it finds. The additional call is the
one that finds a type open and returns. -/
structure CallsFind (kind : CollectedKind) (registry : Registry) (depth : Nat) : Prop where
  element : ∀ above inSequence m found,
    kind.elementPathsWithin registry depth above inSequence m = some found →
      (kind.callElement registry (depth + 1) m.element above inSequence
        (kind.forces m.repeats)).Finds m.names found
  complexType : ∀ path names type found,
    kind.typePathsWithin registry depth path names type = some found →
      (kind.callComplexType registry (depth + 1) type path).Finds names found
  sequence : ∀ path names optional repeats sequence? found,
    kind.sequencePathsWithin registry depth path names optional repeats sequence? = some found →
      (kind.callSequence registry (depth + 1) sequence? path (kind.forces repeats)).Finds names found

/-- The call for a type that may be missing. -/
theorem CallsFind.optionalType {depth : Nat} (ih : kind.CallsFind registry depth)
    (path : List String) (names : OpenNames) (type? : Option ComplexType) (found : List String) :
    (match type? with
      | none => some []
      | some type => kind.typePathsWithin registry depth path names type) = some found →
    Collecting.Finds
      (match type? with
      | none => return ()
      | some type => kind.callComplexType registry (depth + 1) type path) names found := by
  intro h
  cases type? with
  | none =>
      cases h
      exact .nothing
  | some type => exact ih.complexType path names type found h

theorem CallsFind.element_succ (hnamed : registry.TypesNamed) {depth : Nat}
    (ih : kind.CallsFind registry depth) (above : List String) (inSequence : Bool) (m : Member)
    (found : List String)
    (h : kind.elementPathsWithin registry (depth + 1) above inSequence m = some found) :
    (kind.callElement registry (depth + 2) m.element above inSequence
      (kind.forces m.repeats)).Finds m.names found := by
  rw [callElement]
  cases hname : nonempty? m.element.name? with
  | none =>
      rw [elementPathsWithin, hname] at h
      cases h
      exact .nothing
  | some name =>
      obtain ⟨isMatch, below, hmatch, hbelow, rfl⟩ := elementPathsWithin_succ hname h
      have hfinds := ih.optionalType (above ++ [name]) m.names
        (m.element.complexType?.or (registry.complexType? m.element.typeName?)) below <| by
          rw [← hbelow]
          cases m.element.complexType? with
          | some type => rfl
          | none => exact (registeredPathsWithin_eq hnamed ..).symm
      -- The test has one call more than the bounded one, and that changes no answer.
      have hmatches := callMatches_inspects kind registry (depth + 1) (above ++ [name]) inSequence m
      refine .of_inspects hmatches (by rw [isMatchWithin_succ hmatch]; rfl) ?_
      cases isMatch with
      | false => exact hfinds
      | true =>
          have hcalls := kind.callsAccumulate registry (depth + 1)
          exact .bind (.addPath _) (.addPath _) hfinds (hcalls.optionalType _ _)

theorem CallsFind.complexType_succ (hnamed : registry.TypesNamed) {depth : Nat}
    (ih : kind.CallsFind registry depth) (path : List String) (names : OpenNames)
    (type : ComplexType) (found : List String)
    (h : kind.typePathsWithin registry (depth + 1) path names type = some found) :
    (kind.callComplexType registry (depth + 2) type path).Finds names found := by
  rw [typePathsWithin] at h
  rw [callComplexType]
  have hcalls := kind.callsAccumulate registry (depth + 1)
  cases henter : names.enter .complexType type.name? with
  | none =>
      rw [henter] at h
      cases h
      exact .refused henter .nothing
  | some inner =>
      simp only [henter] at h
      -- Inside the name there are up to three calls, and each finds what the walk finds there.
      refine .entered henter ?_
      cases hextension : type.complexContent? with
      | none =>
          rw [contentPathsWithin] at h
          obtain ⟨own, hown, hrest⟩ := Option.bind_eq_some_iff.1 h
          simp only [hextension] at hrest
          cases hrest
          have hfinds := ih.sequence path inner false false type.sequence? found hown
          rw [forces_false] at hfinds
          rw [← List.append_nil found]
          exact hfinds.bind (hcalls.sequence _ path false) .nothing (.pure ())
      | some extension =>
          obtain ⟨own, added, inherited, hown, hadded, hinherited, rfl⟩ :=
            contentPathsWithin_succ hextension h
          have hfinds := ih.sequence path inner false false type.sequence? own hown
          have hfinds' := ih.sequence path inner false false extension.sequence? added hadded
          rw [forces_false] at hfinds hfinds'
          rw [registeredPathsWithin_eq hnamed] at hinherited
          have hbase := ih.optionalType path inner _ inherited hinherited
          have hbaseAccumulates :=
            hcalls.optionalType (registry.complexType? extension.base?) path
          exact hfinds.bind (hcalls.sequence _ path false)
            (hfinds'.bind (hcalls.sequence _ path false) hbase hbaseAccumulates)
            ((hcalls.sequence _ path false).bind fun _ => hbaseAccumulates)

theorem CallsFind.sequence_succ {depth : Nat} (ih : kind.CallsFind registry depth)
    (path : List String) (names : OpenNames) (optional repeats : Bool)
    (sequence? : Option Sequence) (found : List String)
    (h : kind.sequencePathsWithin registry (depth + 1) path names optional repeats sequence? =
      some found) :
    (kind.callSequence registry (depth + 2) sequence? path (kind.forces repeats)).Finds
      names found := by
  cases sequence? with
  | none =>
      cases h
      exact .nothing
  | some sequence =>
      have hcalls := kind.callsAccumulate registry (depth + 1)
      rw [sequencePathsWithin] at h
      obtain ⟨own, hown, hrest⟩ := Option.bind_eq_some_iff.1 h
      obtain ⟨below, hbelow, heq⟩ := Option.bind_eq_some_iff.1 hrest
      cases heq
      rw [callSequence]
      refine .bind (.forM (fun element _ => hcalls.element element path true _) ?_ hown)
        (.forM fun element _ => hcalls.element element path true _)
        (.forM (fun ref _ => hcalls.group ref path _) ?_ hbelow)
        (.forM fun ref _ => hcalls.group ref path _)
      · intro element _ found hfound
        exact ih.element path true ⟨element, names, optional, repeats⟩ found hfound
      · intro ref _ found hfound
        rw [Registry.enterGroup?_eq] at hfound
        cases hcontent : (registry.group? ref.ref?).bind Group.sequence? with
        | none =>
            rw [hcontent] at hfound
            cases hfound
            exact .nothing
        | some content =>
            rw [hcontent, Option.bind_some] at hfound
            cases henter : names.enter .group ref.ref? with
            | none =>
                rw [henter] at hfound
                cases hfound
                exact .refused henter .nothing
            | some inner =>
                rw [henter] at hfound
                refine .entered henter ?_
                -- The walk passes on whether a reference repeats, the calls whether it forces arrays.
                simp only [groupRepeats_forces]
                exact ih.sequence path inner _ _ (some content) found hfound

/-- **Calls find what the bounded walk finds**, where registered types carry their names. -/
theorem callsFind (hnamed : registry.TypesNamed) (kind : CollectedKind) (depth : Nat) :
    kind.CallsFind registry depth := by
  induction depth with
  | zero =>
      refine ⟨fun _ _ _ _ h => ?_, fun path names type found h => ?_, fun _ _ _ _ _ _ h => ?_⟩
      · cases h
      · -- A type that is open is found open by the one call there is.
        rw [typePathsWithin] at h
        cases henter : names.enter .complexType type.name? with
        | some inner =>
            rw [henter] at h
            cases h
        | none =>
            rw [henter] at h
            cases h
            exact .refused henter .nothing
      · cases h
  | succ depth ih =>
      exact ⟨ih.element_succ hnamed, ih.complexType_succ hnamed, ih.sequence_succ⟩

/-- **A schema is collected within its depth**: the call returns, and it finds what the visits of
the schema spell. -/
theorem callSchema_finds (hnamed : registry.TypesNamed) (kind : CollectedKind) (names : OpenNames)
    {schema : Schema} {limit : Nat} (h : registry.walkDepth schema.nesting ≤ limit) :
    (kind.callSchema registry limit schema).Finds names
      (kind.found registry (schema.visits registry names)) := by
  have hle := registry.walkRemaining_le names
  unfold Registry.walkDepth at h
  -- One call is for the schema itself, and one for what is found open at the end of a walk.
  obtain ⟨depth, rfl⟩ : ∃ depth, limit = depth + 2 := ⟨limit - 2, by omega⟩
  have hvisits : schema.elements.mapM (fun element =>
      kind.elementPathsWithin registry depth [] false { element, names }) =
      some (schema.elements.map fun element =>
        kind.found registry (visitsBelow registry [] false { element, names })) := by
    apply mapM_eq_some_map
    intro element hmem
    have hlt := Schema.element_nesting_lt hmem
    exact (collectionReturns registry.walkRoom kind depth).1 [] false { element, names }
      (by simp only; omega)
  rw [callSchema, Schema.visits, found_flatMap]
  refine .forM (fun element _ => ?_) (fun element _ found hfound => ?_) hvisits
  · exact (kind.callsAccumulate registry (depth + 1)).element element [] false false
  · have hfinds := (callsFind hnamed kind depth).element [] false { element, names } found hfound
    rwa [forces_false] at hfinds

end CollectedKind

/-! ## Sessions of collectors -/

namespace Collector

/-- The paths that a collector finds in a schema are those of the visits that match. -/
theorem find_eq (collector : Collector) (schema : Schema) :
    collector.find schema = collector.kind.found collector.registry
      (schema.visits collector.registry collector.session.names) := by
  obtain ⟨kind, registry, session, paths⟩ := collector
  cases kind <;> rfl

/-- The collector as it would be had it found nothing. -/
def fresh (collector : Collector) : Collector :=
  { collector with paths := [] }

/-- What a fresh collector collects is what the visits of the schema spell. -/
theorem mem_collect_iff (collector : Collector) (hnamed : collector.registry.TypesNamed)
    (schema : Schema) (path : String) :
    path ∈ (collector.fresh.step (.collect schema)).1.paths ↔ path ∈ collector.find schema := by
  have hfinds := CollectedKind.callSchema_finds hnamed collector.kind collector.session.names
    (Nat.le_refl (collector.registry.walkDepth schema.nesting))
  rw [find_eq]
  exact hfinds.2 path

/-- A step collects a schema or resolves a list; it does not open or close names by itself. -/
def IsCall : CollectorStep → Prop
  | .names _ => False
  | .collect _ => True
  | .resolveList _ => True

/-- A step gives the answer that it gives on a collector that found nothing; it leaves the collector
as it was, but for the paths that it would find there. -/
structure AddsUp (collector : Collector) (step : CollectorStep) : Prop where
  next_eq : (collector.step step).1 =
    { collector with paths := (collector.step step).1.paths }
  answer_eq : (collector.step step).2 = (collector.fresh.step step).2
  mem_paths_iff : ∀ path, path ∈ (collector.step step).1.paths ↔
    path ∈ collector.paths ∨ path ∈ (collector.fresh.step step).1.paths

theorem addsUp_collect (collector : Collector) (schema : Schema) :
    collector.AddsUp (.collect schema) := by
  have hcall := collector.kind.callSchema_accumulates collector.registry
    (collector.registry.walkDepth schema.nesting) schema collector.state
  refine ⟨?_, rfl, fun path => hcall.mem_paths_iff path⟩
  simp only [step, afterCall, hcall.names_eq]
  rfl

/-- Resolving a list leaves the collector as it was. -/
theorem step_resolveList (collector : Collector) (name? : Option String) :
    (collector.step (.resolveList name?)).1 = collector := by
  obtain ⟨kind, registry, session, paths⟩ := collector
  cases kind with
  | arrays options => rfl
  | lists =>
      cases htype : registry.simpleType? name? with
      | none => simp only [step, htype]
      | some type =>
          have hcall := Collecting.callListType_inspects registry (registry.walkDepth 0) type
            { names := session.names, paths }
          simp only [step, afterCall, state, htype, hcall]

theorem addsUp_resolveList (collector : Collector) (name? : Option String) :
    collector.AddsUp (.resolveList name?) := by
  refine ⟨?_, ?_, fun path => ?_⟩
  · rw [step_resolveList]
  · obtain ⟨kind, registry, session, paths⟩ := collector
    cases kind with
    | arrays options => rfl
    | lists =>
        cases htype : registry.simpleType? name? with
        | none => simp only [step, fresh, htype]
        | some type =>
            -- The search looks at the open names, which are the same with and without the paths.
            have hcall := Collecting.callListType_inspects registry (registry.walkDepth 0) type
            simp only [step, fresh, afterCall, state, htype, hcall { names := session.names, paths },
              hcall { names := session.names }]
  · simp [step_resolveList, fresh]

theorem addsUp {step : CollectorStep} (h : IsCall step) (collector : Collector) :
    collector.AddsUp step := by
  cases step with
  | names _ => exact h.elim
  | collect schema => exact collector.addsUp_collect schema
  | resolveList name? => exact collector.addsUp_resolveList name?

theorem AddsUp.fresh_next {collector : Collector} {step : CollectorStep}
    (h : collector.AddsUp step) : (collector.step step).1.fresh = collector.fresh := by
  rw [h.next_eq]
  rfl

/-- What single steps do, sessions do: the answers are those of a collector that found nothing, and
the paths are those found before and those that such a collector finds in single steps. -/
theorem addsUp_run {steps : List CollectorStep} (h : ∀ step ∈ steps, IsCall step)
    (collector : Collector) :
    (runEach step collector steps).1 =
        { collector with paths := (runEach step collector steps).1.paths } ∧
      (runEach step collector steps).2 = steps.map (fun step => (collector.fresh.step step).2) ∧
      ∀ path, path ∈ (runEach step collector steps).1.paths ↔
        path ∈ collector.paths ∨ ∃ step ∈ steps, path ∈ (collector.fresh.step step).1.paths := by
  -- The induction is over all collectors; those after the first step are as fresh as the one before.
  induction steps generalizing collector with
  | nil => exact ⟨rfl, rfl, fun path => by simp [runEach]⟩
  | cons first rest ih =>
      have hfirst := collector.addsUp (h first (List.mem_cons_self ..))
      obtain ⟨hlast, hanswers, hpaths⟩ :=
        ih (fun step hmem => h step (List.mem_cons_of_mem _ hmem)) (collector.step first).1
      rw [hfirst.fresh_next] at hanswers hpaths
      simp only [runEach, List.map_cons, List.mem_cons, or_and_right, exists_or, exists_eq_left]
      refine ⟨?_, ?_, fun path => ?_⟩
      · rw [hlast, hfirst.next_eq]
      · rw [hanswers, hfirst.answer_eq]
      · rw [hpaths, hfirst.mem_paths_iff, or_assoc]

/-- The paths in the end are those found before and those that a fresh collector finds in each
schema. -/
theorem mem_run_paths_iff {steps : List CollectorStep} (h : ∀ step ∈ steps, IsCall step)
    (collector : Collector) (path : String) :
    path ∈ (runEach step collector steps).1.paths ↔ path ∈ collector.paths ∨
      ∃ schema, .collect schema ∈ steps ∧
        path ∈ (collector.fresh.step (.collect schema)).1.paths := by
  rw [(collector.addsUp_run h).2.2]
  refine or_congr_right ⟨?_, ?_⟩
  · rintro ⟨step | schema | name?, hmem, hpath⟩
    · exact (h _ hmem).elim
    · exact ⟨schema, hmem, hpath⟩
    · -- A fresh collector that resolves a list is as fresh as before.
      rw [step_resolveList] at hpath
      cases hpath
  · rintro ⟨schema, hmem, hpath⟩
    exact ⟨.collect schema, hmem, hpath⟩

/-- Order and repetition of the steps do not matter. -/
theorem mem_run_paths_congr {steps others : List CollectorStep} (h : ∀ step ∈ steps, IsCall step)
    (hothers : ∀ step, step ∈ others ↔ step ∈ steps) (collector : Collector) (path : String) :
    path ∈ (runEach step collector others).1.paths ↔
      path ∈ (runEach step collector steps).1.paths := by
  have hcalls : ∀ step ∈ others, IsCall step := by
    intro step hmem
    exact h step ((hothers step).1 hmem)
  rw [mem_run_paths_iff hcalls, mem_run_paths_iff h]
  simp only [hothers]

/-- With enough depth the call for a schema returns from every state. -/
theorem callSchema_returns (collector : Collector) (hnamed : collector.registry.TypesNamed)
    {schema : Schema} {limit : Nat} (h : collector.registry.walkDepth schema.nesting ≤ limit)
    (state : CollectorState) :
    ((collector.kind.callSchema collector.registry limit schema).outcome state).1 = .ok () := by
  have hcall := collector.kind.callSchema_accumulates collector.registry limit schema state
  have hfinds := CollectedKind.callSchema_finds hnamed collector.kind state.names h
  rw [hcall.result_eq, hfinds.1]

/-- **Collectors accumulate unions.** Whatever is registered, looked for, open and found before, every
call of a collector adds up, returning or raising within any limit, and the search for a list leaves
everything as it was.

So a session of such calls leaves all but the paths as it was, and the paths in the end are those
found before together with those that a fresh collector finds in each step: the order and the
repetition of the steps do not matter. For the registry of a document, every call with enough depth
returns, and what a fresh collector finds in a schema is what the visits of the schema spell. -/
theorem collects_are_unions (collector : Collector) :
    ((∀ limit schema,
        (collector.kind.callSchema collector.registry limit schema).Accumulates) ∧
      ∀ limit type state,
        ((Collecting.callListType collector.registry limit type).outcome state).2 = state) ∧
    (∀ steps : List CollectorStep, (∀ step ∈ steps, IsCall step) →
      let last := (runEach step collector steps).1
      last = { collector with paths := last.paths } ∧
      (runEach step collector steps).2 = steps.map (fun step => (collector.fresh.step step).2) ∧
      (∀ path, path ∈ last.paths ↔ path ∈ collector.paths ∨
        ∃ schema, .collect schema ∈ steps ∧ path ∈ (collector.fresh.step (.collect schema)).1.paths) ∧
      ∀ others : List CollectorStep, (∀ step, step ∈ others ↔ step ∈ steps) →
        ∀ path, path ∈ (runEach step collector others).1.paths ↔ path ∈ last.paths) ∧
    ∀ document, collector.registry = Registry.ofDocument document →
      ∀ schema,
        (∀ state limit, collector.registry.walkDepth schema.nesting ≤ limit →
          ((collector.kind.callSchema collector.registry limit schema).outcome state).1 = .ok ()) ∧
        ∀ path, path ∈ (collector.fresh.step (.collect schema)).1.paths ↔
          path ∈ collector.find schema := by
  refine ⟨⟨?_, ?_⟩, ?_, ?_⟩
  · exact collector.kind.callSchema_accumulates collector.registry
  · intro limit type state
    rw [Collecting.callListType_inspects]
  · intro steps hsteps last
    obtain ⟨hlast, hanswers, -⟩ := collector.addsUp_run hsteps
    exact ⟨hlast, hanswers, collector.mem_run_paths_iff hsteps,
      fun others hothers => collector.mem_run_paths_congr hsteps hothers⟩
  · intro document hdocument schema
    have hnamed : collector.registry.TypesNamed :=
      hdocument ▸ Registry.typesNamed_ofDocument document
    exact ⟨fun state limit hlimit => collector.callSchema_returns hnamed hlimit state,
      collector.mem_collect_iff hnamed schema⟩

end Collector

end SchemaBridge
