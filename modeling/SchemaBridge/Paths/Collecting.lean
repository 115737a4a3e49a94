import SchemaBridge.JsonSchema.Emitter
import SchemaBridge.Paths.Visits

/-!
# Calls of collectors

A collector walks from element to element with one set of open names and one set of paths for all its
calls. A declaration that it enters is put on top of the open names and taken off again when the
block inside ends, whether that returns or raises (`Collecting.entering`); a path that it finds is
put into the set and stays there.

What is looked for decides in two places only: whether the path of an element is put into the set
(`CollectedKind.callMatches`), and whether a reference to a group makes arrays of what is below it
(`CollectedKind.groupRepeats`). As with emitters there is a limit on the depth of calls, and the call
that exceeds it raises.
-/

set_option autoImplicit false

namespace SchemaBridge

open Xsd

/-- What a collector looks for. -/
inductive CollectedKind where
  /-- Elements that are written as arrays under the given options. -/
  | arrays (options : Options)
  /-- Elements whose type is a list. -/
  | lists

/-- What the calls of a collector read and change: the open names, and the set of the paths found so
far. -/
structure CollectorState where
  names : OpenNames := {}
  paths : List String := []

/-- A call of a collector: it reads and changes the state, and it returns or raises. What it did to
the state before it raised is not undone by raising. -/
abbrev Collecting (α : Type) : Type := ExceptT Raised (StateM CollectorState) α

namespace Collecting

/-- What a call gives in a state, and the state afterwards. -/
def outcome {α : Type} (call : Collecting α) (state : CollectorState) :
    Except Raised α × CollectorState :=
  StateT.run (ExceptT.run call) state

/-- Put a path into the set. -/
def addPath (path : String) : Collecting Unit :=
  modify fun state => { state with paths := state.paths.insert path }

/-- Run a block inside a declaration. The block is told whether the declaration is entered: it is
not when its name is open already. A name that was opened is closed when the block ends. -/
def entering {α : Type} (kind : DeclarationKind) (name? : Option String)
    (block : Bool → Collecting α) : Collecting α := do
  match name? with
  | none => block true
  | some name =>
      if (← get).names.isOpen kind name then block false
      else
        modify fun state => { state with names := state.names.push kind name }
        try block true
        finally modify fun state => { state with names := state.names.pop kind }

/-- Follow the restrictions of a simple type to a list. -/
def callListType (registry : Registry) : Nat → SimpleType → Collecting (Option ListType)
  | 0, _ => throw .tooDeep
  | limit + 1, type =>
      match type.list? with
      | some list => return some list
      | none =>
          let base? := type.restriction?.bind Restriction.base?
          match registry.simpleType? base? with
          | none => return none
          | some base =>
              entering .simpleType base? fun
                | false => return none
                | true => callListType registry limit base

end Collecting

namespace CollectedKind

variable (kind : CollectedKind) (registry : Registry)

/-- Find out whether the path of an element is one of those that are looked for. -/
def callMatches (limit : Nat) (element : Element) (inSequence forceArray : Bool) :
    Collecting Bool :=
  match kind with
  | .arrays options => return forceArray || options.isArrayElement element inSequence
  | .lists =>
      if (element.simpleType?.bind SimpleType.list?).isSome then return true
      else
        match registry.simpleType? element.typeName? with
        | none => return false
        | some type => do return (← Collecting.callListType registry limit type).isSome

/-- Whether arrays are made of the elements of a group, from the reference to it and from whether
they are made at the reference. -/
def groupRepeats (ref : Group) (repeats : Bool) : Bool :=
  match kind with
  | .arrays options => repeats || (options.treatUnboundedAsArray && ref.occurs.isUnbounded)
  | .lists => repeats

mutual

/-- Collect the paths of an element below a path and of everything in its content; none when it has
no name. -/
def callElement : Nat → Element → List String → Bool → Bool → Collecting Unit
  | 0, _, _, _, _ => throw .tooDeep
  | limit + 1, element, above, inSequence, forceArray =>
      match nonempty? element.name? with
      | none => return ()
      | some name => do
          let path := above ++ [name]
          if ← kind.callMatches registry limit element inSequence forceArray then
            Collecting.addPath (joinedPath path)
          match element.complexType?.or (registry.complexType? element.typeName?) with
          | none => return ()
          | some type => callComplexType limit type path

/-- Collect the paths in a complex type, inside its name: those of its sequence, those of its
extension, and those of the registered type that it extends. -/
def callComplexType : Nat → ComplexType → List String → Collecting Unit
  | 0, _, _ => throw .tooDeep
  | limit + 1, type, path =>
      Collecting.entering .complexType type.name? fun
        | false => return ()
        | true => do
            callSequence limit type.sequence? path false
            match type.complexContent? with
            | none => return ()
            | some extension => do
                callSequence limit extension.sequence? path false
                match registry.complexType? extension.base? with
                | none => return ()
                | some base => callComplexType limit base path

/-- Collect the paths in a sequence: those of its own elements, then those of the groups it refers
to, each inside the name of the group. -/
def callSequence : Nat → Option Sequence → List String → Bool → Collecting Unit
  | 0, _, _, _ => throw .tooDeep
  | _ + 1, none, _, _ => return ()
  | limit + 1, some sequence, path, repeats => do
      sequence.elements.forM fun element => callElement limit element path true repeats
      sequence.groups.forM fun ref =>
        match (registry.group? ref.ref?).bind Group.sequence? with
        | none => return ()
        | some content =>
            Collecting.entering .group ref.ref? fun
              | false => return ()
              | true => callSequence limit (some content) path (kind.groupRepeats ref repeats)

end

/-- Collect the paths of a schema: those of its top-level elements. -/
def callSchema : Nat → Schema → Collecting Unit
  | 0, _ => throw .tooDeep
  | limit + 1, schema =>
      schema.elements.forM fun element => kind.callElement registry limit element [] false false

end CollectedKind

end SchemaBridge
