import Mathlib.Data.List.Induction
import SchemaBridge.Xsd.OpenNames

/-!
# Blocks that are entered and left

Walks open names only in blocks: a block is entered with a name or without one, and it is left before
any block around it is. Which blocks are still open can be read off the steps alone, by matching each
step that leaves with the latest block that it can close (`openBlocks`). The open names follow from
these blocks. Each kind has exactly the names of the blocks of that kind that were entered and have a
name, in the order in which they were opened, and none of them twice (`blockSteps_disciplined`).

The reason is that a session after some steps is the session right after the latest open block was
entered, and below it stands the session from before (`Session.Nested`). Leaving a block therefore
undoes entering it, whatever happened in between.
-/

set_option autoImplicit false

namespace SchemaBridge.Xsd

deriving instance DecidableEq for OpenNamesAnswer

/-- A step of a walk: enter a block, or leave the latest one that is still open. -/
inductive BlockStep where
  | enter (kind : DeclarationKind) (name? : Option String)
  | leave
deriving DecidableEq

/-- The step of a session. -/
def BlockStep.step : BlockStep → OpenNamesStep
  | .enter kind name? => .enter kind name?
  | .leave => .leave

namespace Session

/-- The session after some more steps. -/
def after (session : Session) (steps : List BlockStep) : Session :=
  steps.foldl (fun current step => (current.step step.step).1) session

@[simp] theorem after_nil (session : Session) : session.after [] = session := rfl

@[simp] theorem after_cons (session : Session) (step : BlockStep) (steps : List BlockStep) :
    session.after (step :: steps) = (session.step step.step).1.after steps := rfl

@[simp] theorem after_append (session : Session) (first second : List BlockStep) :
    session.after (first ++ second) = (session.after first).after second :=
  List.foldl_append

/-- Entering a block tells whether the name can be opened. -/
theorem enter_answer (session : Session) (kind : DeclarationKind) (name? : Option String) :
    (session.step (.enter kind name?)).2 = .truth (session.names.enter kind name?).isSome := by
  simp only [step]
  cases session.names.enter kind name? <;> rfl

/-- Entering a block opens its name, unless the block is refused. -/
theorem enter_names (session : Session) (kind : DeclarationKind) (name? : Option String) :
    (session.step (.enter kind name?)).1.names =
      (session.names.enter kind name?).getD session.names := by
  simp only [step]
  cases session.names.enter kind name? <;> rfl

/-- **Leaving a block undoes entering it**, whether it was refused or not. -/
theorem leave_enter (session : Session) (kind : DeclarationKind) (name? : Option String) :
    ((session.step (.enter kind name?)).1.step .leave).1 = session := by
  obtain ⟨names, blocks⟩ := session
  cases name? with
  | none => rfl
  | some name =>
      cases hopen : names.isOpen kind name with
      | true => simp only [step, OpenNames.enter, hopen, if_true]
      | false => simp [step, OpenNames.enter, hopen]

end Session

/-! ## Blocks that are still open -/

/-- A block that is still open. -/
structure OpenBlock where
  /-- The steps before the block was opened. -/
  earlier : List BlockStep
  kind : DeclarationKind
  name? : Option String

namespace OpenBlock

/-- The session in which the block was opened. -/
def outside (block : OpenBlock) : Session := ({} : Session).after block.earlier

/-- The block was told that it is entered. -/
def Entered (block : OpenBlock) : Prop :=
  (block.outside.step (.enter block.kind block.name?)).2 = .truth true

instance (block : OpenBlock) : Decidable block.Entered :=
  inferInstanceAs (Decidable (_ = _))

/-- The name of a kind that the block keeps open. -/
def nameOf? (kind : DeclarationKind) (block : OpenBlock) : Option String :=
  if block.kind = kind ∧ block.Entered then block.name? else none

end OpenBlock

/-- Go on by a step, with the steps made so far and the blocks that are open. -/
def trackBlock (state : List BlockStep × List OpenBlock) (step : BlockStep) :
    List BlockStep × List OpenBlock :=
  match step with
  | .enter kind name? => (state.1 ++ [step], ⟨state.1, kind, name?⟩ :: state.2)
  | .leave => (state.1 ++ [step], state.2.tail)

/-- The blocks that are open after some steps, the latest one first. -/
def openBlocks (steps : List BlockStep) : List OpenBlock :=
  (steps.foldl trackBlock ([], [])).2

theorem foldl_trackBlock_fst (steps : List BlockStep) :
    (steps.foldl trackBlock ([], [])).1 = steps := by
  induction steps using List.reverseRecOn with
  | nil => rfl
  | append_singleton steps step ih =>
      rw [List.foldl_append, List.foldl_cons, List.foldl_nil]
      cases step <;> simp only [trackBlock, ih]

@[simp] theorem openBlocks_append_enter (steps : List BlockStep) (kind : DeclarationKind)
    (name? : Option String) :
    openBlocks (steps ++ [.enter kind name?]) = ⟨steps, kind, name?⟩ :: openBlocks steps := by
  simp only [openBlocks, List.foldl_append, List.foldl_cons, List.foldl_nil, trackBlock,
    foldl_trackBlock_fst]

@[simp] theorem openBlocks_append_leave (steps : List BlockStep) :
    openBlocks (steps ++ [.leave]) = (openBlocks steps).tail := by
  simp only [openBlocks, List.foldl_append, List.foldl_cons, List.foldl_nil, trackBlock]

/-! ## Sessions of nested blocks -/

/-- A session in which some blocks are open: nothing is, or the session is what the latest block made
of the session around it. -/
inductive Session.Nested : List OpenBlock → Session → Prop where
  | nil : Nested [] {}
  | cons {block : OpenBlock} {rest : List OpenBlock} (h : Nested rest block.outside) :
      Nested (block :: rest) (block.outside.step (.enter block.kind block.name?)).1

/-- One step keeps the nesting. -/
theorem Session.Nested.step {steps : List BlockStep}
    (h : Nested (openBlocks steps) (({} : Session).after steps)) (step : BlockStep) :
    Nested (openBlocks (steps ++ [step])) (({} : Session).after (steps ++ [step])) := by
  rw [after_append]
  cases step with
  | enter kind name? =>
      rw [openBlocks_append_enter]
      exact .cons h
  | leave =>
      rw [openBlocks_append_leave]
      generalize openBlocks steps = blocks at h
      generalize ({} : Session).after steps = session at h
      show Nested blocks.tail (session.step .leave).1
      cases h with
      | nil => exact .nil
      | @cons block rest houter =>
          -- The block that is left is the latest one, so the session around it comes back.
          rw [leave_enter]
          exact houter

/-- Every run of steps nests its blocks. -/
theorem nested_openBlocks (steps : List BlockStep) :
    Session.Nested (openBlocks steps) (({} : Session).after steps) := by
  induction steps using List.reverseRecOn with
  | nil => exact .nil
  | append_singleton steps step ih => exact ih.step step

namespace OpenBlock

theorem entered_iff (block : OpenBlock) :
    block.Entered ↔ (block.outside.names.enter block.kind block.name?).isSome = true := by
  unfold Entered
  rw [Session.enter_answer, OpenNamesAnswer.truth.injEq]

/-- Entering a block opens the name that it keeps open, and nothing else. -/
theorem ofKind_inside (block : OpenBlock) (kind : DeclarationKind) :
    (block.outside.step (.enter block.kind block.name?)).1.names.ofKind kind =
      (block.nameOf? kind).toList ++ block.outside.names.ofKind kind := by
  have hentered := block.entered_iff
  obtain ⟨earlier, own, name?⟩ := block
  simp only [nameOf?, hentered, Session.step]
  generalize (outside ⟨earlier, own, name?⟩) = session
  cases name? with
  | none => simp [OpenNames.enter]
  | some name =>
      cases hopen : session.names.isOpen own name with
      | true => simp [OpenNames.enter, hopen]
      | false =>
          -- Only here is a name pushed, and only onto the names of its own kind.
          by_cases hkind : own = kind
          · subst hkind
            simp [OpenNames.enter, hopen, OpenNames.push]
          · simp [OpenNames.enter, hopen, OpenNames.push, hkind, Ne.symm hkind]

/-- The name that a block keeps open was not open before. -/
theorem not_mem_of_nameOf? {block : OpenBlock} {kind : DeclarationKind} {name : String}
    (h : block.nameOf? kind = some name) : name ∉ block.outside.names.ofKind kind := by
  unfold nameOf? at h
  split at h
  · rename_i hentered
    obtain ⟨rfl, hentered⟩ := hentered
    rw [entered_iff, h, OpenNames.enter] at hentered
    intro hmem
    have hopen : block.outside.names.isOpen block.kind name = true := by
      rw [OpenNames.isOpen, List.contains_iff_mem]
      exact hmem
    rw [if_pos hopen] at hentered
    cases hentered
  · cases h

end OpenBlock

namespace Session.Nested

variable {blocks : List OpenBlock} {session : Session}

/-- The open names are those of the open blocks. -/
theorem ofKind_eq (h : Nested blocks session) (kind : DeclarationKind) :
    session.names.ofKind kind = blocks.filterMap (OpenBlock.nameOf? kind) := by
  induction h with
  | nil => cases kind <;> rfl
  | @cons block rest h ih =>
      rw [block.ofKind_inside, ih]
      cases hname : block.nameOf? kind with
      | none => rw [List.filterMap_cons_none hname]; rfl
      | some name => rw [List.filterMap_cons_some hname]; rfl

/-- No name is open twice. -/
theorem nodup (h : Nested blocks session) (kind : DeclarationKind) :
    (session.names.ofKind kind).Nodup := by
  induction h with
  | nil => cases kind <;> exact List.nodup_nil
  | @cons block rest h ih =>
      rw [block.ofKind_inside]
      cases hname : block.nameOf? kind with
      | none => exact ih
      | some name => exact List.nodup_cons.2 ⟨OpenBlock.not_mem_of_nameOf? hname, ih⟩

end Session.Nested

/-! ## Discipline -/

/-- A name is refused exactly when it is open. -/
theorem Session.enter_answer_eq_false_iff (session : Session) (kind : DeclarationKind)
    (name? : Option String) :
    (session.step (.enter kind name?)).2 = .truth false ↔
      ∃ name, name? = some name ∧ name ∈ session.names.ofKind kind := by
  rw [enter_answer, OpenNamesAnswer.truth.injEq]
  cases name? with
  | none => simp [OpenNames.enter]
  | some name =>
      simp only [OpenNames.enter, Option.some.injEq, exists_eq_left', ← List.contains_iff_mem]
      show _ ↔ session.names.isOpen kind name = true
      cases session.names.isOpen kind name <;> simp

/-- How open names behave after some steps. -/
structure Disciplined (steps : List BlockStep) : Prop where
  /-- The names of a kind, in opening order, are those of the open blocks that were entered. -/
  names_eq : ∀ kind, ((({} : Session).after steps).names.ofKind kind).reverse =
    (openBlocks steps).reverse.filterMap (OpenBlock.nameOf? kind)
  /-- No name is open twice in one kind. -/
  nodup : ∀ kind, ((({} : Session).after steps).names.ofKind kind).Nodup
  /-- A block is told that it is entered or that it is refused. -/
  answers : ∀ kind name?, ∃ entered,
    ((({} : Session).after steps).step (.enter kind name?)).2 = .truth entered
  /-- It is refused exactly when its name is open in its kind. -/
  refuses_iff : ∀ kind name?,
    ((({} : Session).after steps).step (.enter kind name?)).2 = .truth false ↔
      ∃ name, name? = some name ∧ name ∈ (({} : Session).after steps).names.ofKind kind
  /-- Leaving a block restores the names of all kinds to those from before it was opened. -/
  leave_restores : ∀ block rest, openBlocks steps = block :: rest →
    (({} : Session).after (steps ++ [.leave])).names = block.outside.names
  /-- Where no block is open, leaving changes nothing. -/
  leave_outside : openBlocks steps = [] →
    ({} : Session).after (steps ++ [.leave]) = ({} : Session).after steps
  /-- Entering a block of one kind changes no other kind. -/
  enter_other : ∀ kind name? other, other ≠ kind →
    (({} : Session).after (steps ++ [.enter kind name?])).names.ofKind other =
      (({} : Session).after steps).names.ofKind other
  /-- Nor does leaving it. -/
  leave_other : ∀ block rest other, openBlocks steps = block :: rest → other ≠ block.kind →
    (({} : Session).after (steps ++ [.leave])).names.ofKind other =
      (({} : Session).after steps).names.ofKind other

/-- A block keeps no name of another kind open. -/
theorem OpenBlock.nameOf?_of_ne {block : OpenBlock} {kind : DeclarationKind}
    (h : kind ≠ block.kind) : block.nameOf? kind = none :=
  if_neg fun hsame => h hsame.1.symm

/-- **The discipline of open names.** After every run of steps that enter and leave blocks, from
nothing open, each kind has the names of its open blocks and no others. -/
theorem blockSteps_disciplined (steps : List BlockStep) : Disciplined steps := by
  have hnested := nested_openBlocks steps
  -- The latest open block was entered from the session that leaving it gives back.
  have hleft : ∀ block rest, openBlocks steps = block :: rest →
      ({} : Session).after (steps ++ [.leave]) = block.outside := by
    intro block rest hblocks
    rw [hblocks] at hnested
    rw [Session.after_append]
    generalize ({} : Session).after steps = session at hnested
    cases hnested with
    | cons _ => exact Session.leave_enter ..
  constructor
  case names_eq =>
    intro kind
    rw [hnested.ofKind_eq, List.filterMap_reverse]
  case nodup => exact hnested.nodup
  case answers =>
    intro kind name?
    exact ⟨_, Session.enter_answer ..⟩
  case refuses_iff => exact Session.enter_answer_eq_false_iff _
  case leave_restores =>
    intro block rest hblocks
    rw [hleft block rest hblocks]
  case leave_outside =>
    intro hblocks
    rw [hblocks] at hnested
    rw [Session.after_append]
    generalize ({} : Session).after steps = session at hnested
    cases hnested
    rfl
  case enter_other =>
    intro kind name? other hother
    have hinside := OpenBlock.ofKind_inside ⟨steps, kind, name?⟩ other
    rw [OpenBlock.nameOf?_of_ne hother] at hinside
    rw [Session.after_append]
    exact hinside
  case leave_other =>
    intro block rest other hblocks hother
    rw [hleft block rest hblocks]
    rw [hblocks] at hnested
    generalize ({} : Session).after steps = session at hnested
    cases hnested with
    | cons _ =>
        rw [block.ofKind_inside, OpenBlock.nameOf?_of_ne hother]
        rfl

/-- A block that was refused closes nothing when it is left. -/
example : (({} : Session).after [.enter .group (some "Address"), .enter .group (some "Address"),
    .leave]).names = { groups := ["Address"] } := by decide

end SchemaBridge.Xsd
