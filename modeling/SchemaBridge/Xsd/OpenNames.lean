import SchemaBridge.Failure

/-!
# Names under resolution

While a declaration is being resolved its name is open, and a declaration whose name is open is not
entered again: this is what ends the walk of a schema whose types or groups refer to each other in a
circle. Each kind of declarations has open names of its own.

`OpenNames.enter` is the only test a walk makes. Walks pass the open names down to the declarations
they enter and never back up, so siblings do not block each other. `Session` runs single steps on
one set of open names: raw pushes and pops, and blocks that are entered and left.
-/

set_option autoImplicit false

namespace SchemaBridge.Xsd

/-- The kinds of named declarations. -/
inductive DeclarationKind where
  | complexType
  | simpleType
  | group
deriving DecidableEq, Repr

namespace DeclarationKind

/-- The tag of such declarations. -/
def name : DeclarationKind → String
  | .complexType => "complexType"
  | .simpleType => "simpleType"
  | .group => "group"

/-- The kind with a name. -/
def ofName (name : String) : Except Failure DeclarationKind :=
  match [complexType, simpleType, group].find? (·.name = name) with
  | some kind => .ok kind
  | none => .error (.invalidDeclarationKind name)

end DeclarationKind

/-- The open names of each kind, the most recently opened one first. -/
structure OpenNames where
  complexTypes : List String := []
  simpleTypes : List String := []
  groups : List String := []
deriving DecidableEq, Repr

namespace OpenNames

/-- The open names of a kind, the most recently opened one first. -/
def ofKind (names : OpenNames) : DeclarationKind → List String
  | .complexType => names.complexTypes
  | .simpleType => names.simpleTypes
  | .group => names.groups

/-- The open names with those of one kind replaced. -/
def withKind (names : OpenNames) (kind : DeclarationKind) (list : List String) : OpenNames :=
  match kind with
  | .complexType => { names with complexTypes := list }
  | .simpleType => { names with simpleTypes := list }
  | .group => { names with groups := list }

/-- The name is open. -/
def isOpen (names : OpenNames) (kind : DeclarationKind) (name : String) : Bool :=
  (names.ofKind kind).contains name

/-- Open a name. -/
def push (names : OpenNames) (kind : DeclarationKind) (name : String) : OpenNames :=
  names.withKind kind (name :: names.ofKind kind)

/-- Close the most recently opened name of a kind. -/
def pop (names : OpenNames) (kind : DeclarationKind) : OpenNames :=
  names.withKind kind (names.ofKind kind).tail

/-- The open names inside a declaration: a declaration without a name changes nothing, one whose
name is already open is refused. -/
def enter (names : OpenNames) (kind : DeclarationKind) : Option String → Option OpenNames
  | none => some names
  | some name => if names.isOpen kind name then none else some (names.push kind name)

@[simp] theorem ofKind_withKind_self (names : OpenNames) (kind : DeclarationKind)
    (list : List String) : (names.withKind kind list).ofKind kind = list := by
  cases kind <;> rfl

@[simp] theorem ofKind_withKind_of_ne (names : OpenNames) {kind other : DeclarationKind}
    (list : List String) (h : other ≠ kind) :
    (names.withKind kind list).ofKind other = names.ofKind other := by
  cases kind <;> cases other <;> first | rfl | exact absurd rfl h

/-- Closing undoes opening. -/
@[simp] theorem pop_push (names : OpenNames) (kind : DeclarationKind) (name : String) :
    (names.push kind name).pop kind = names := by
  cases kind <;> rfl

end OpenNames

/-- A step on open names. -/
inductive OpenNamesStep where
  | push (kind : DeclarationKind) (name : String)
  | pop (kind : DeclarationKind)
  | isOpen (kind : DeclarationKind) (name : String)
  | depth (kind : DeclarationKind)
  /-- Open a block. -/
  | enter (kind : DeclarationKind) (name? : Option String)
  /-- Close the most recently opened block that is still open. -/
  | leave

/-- The answer to a step. -/
inductive OpenNamesAnswer where
  | done
  | name (name? : Option String)
  | truth (value : Bool)
  | count (n : Nat)

/-- Open names together with the blocks that are still open. -/
structure Session where
  names : OpenNames := {}
  /-- For each open block, the most recent first, the kind whose top name closes with it; `none` for
  a block that was refused or has no name. -/
  blocks : List (Option DeclarationKind) := []

namespace Session

/-- Run one step. Leaving a block answers `false`, whether it had been entered or refused: it never
holds back a failure that happens inside. -/
def step (session : Session) : OpenNamesStep → Session × OpenNamesAnswer
  | .push kind name => ({ session with names := session.names.push kind name }, .done)
  | .pop kind =>
      ({ session with names := session.names.pop kind }, .name (session.names.ofKind kind).head?)
  | .isOpen kind name => (session, .truth (session.names.isOpen kind name))
  | .depth kind => (session, .count (session.names.ofKind kind).length)
  | .enter kind name? =>
      match session.names.enter kind name? with
      | none => ({ session with blocks := none :: session.blocks }, .truth false)
      | some names =>
          (⟨names, name?.map (fun _ => kind) :: session.blocks⟩, .truth true)
  | .leave =>
      match session.blocks with
      | [] => (session, .done)
      | none :: rest => ({ session with blocks := rest }, .truth false)
      | some kind :: rest => (⟨session.names.pop kind, rest⟩, .truth false)

end Session

end SchemaBridge.Xsd
