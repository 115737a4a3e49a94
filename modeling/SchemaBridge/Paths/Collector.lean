import SchemaBridge.Paths.Collecting
import SchemaBridge.Xsd.Nesting

/-!
# Collectors of paths

A collector gathers the paths of one schema after another. It keeps its registry, its open names and
the paths found so far. A step that collects or follows restrictions is a call (`CollectedKind`,
`Collecting`) that starts with the names and paths of the collector, and the collector goes on with
those that the call leaves.

What a collector finds in a schema is a list of paths (`Collector.find`), and collecting adds them to
those found before (`Collector.collect`).
-/

set_option autoImplicit false

namespace SchemaBridge

open Xsd

/-- A collector with the paths found so far. -/
structure Collector where
  kind : CollectedKind
  registry : Registry
  session : Session := {}
  paths : List String := []

/-- A step of a collector session. -/
inductive CollectorStep where
  | names (step : OpenNamesStep)
  /-- Add the paths of a schema. -/
  | collect (schema : Schema)
  /-- Follow the restrictions of a named simple type to a list. -/
  | resolveList (name? : Option String)

/-- The answer to a step of a collector session. -/
inductive CollectorAnswer where
  | names (answer : OpenNamesAnswer)
  | collected
  | list (list? : Option ListType)

namespace Collector

/-- The paths that a collector finds in a schema. -/
def find (collector : Collector) (schema : Schema) : List String :=
  match collector.kind with
  | .arrays options => schema.arrayPaths options collector.registry collector.session.names
  | .lists => schema.listPaths collector.registry collector.session.names

/-- Add the paths of a schema. -/
def collect (collector : Collector) (schema : Schema) : Collector :=
  { collector with paths := collector.paths ++ collector.find schema }

/-- The state in which the calls of a collector start. -/
def state (collector : Collector) : CollectorState where
  names := collector.session.names
  paths := collector.paths

/-- The collector with the names and paths that a call leaves, and what the call gives. A call that
is too deep would give nothing; the calls of a session never are. -/
def afterCall {α : Type} (collector : Collector) (call : Collecting α) :
    Collector × Option α :=
  let (result, state) := call.outcome collector.state
  ({ collector with
      session := { collector.session with names := state.names }
      paths := state.paths }, result.toOption)

/-- Run one step. Calls are made with a limit that they do not reach. Only a collector of list paths
resolves lists. -/
def step (collector : Collector) : CollectorStep → Collector × Except Failure CollectorAnswer
  | .names step =>
      let (session, answer) := collector.session.step step
      ({ collector with session := session }, .ok (.names answer))
  | .collect schema =>
      let limit := collector.registry.walkDepth schema.nesting
      let (next, _) := collector.afterCall
        (collector.kind.callSchema collector.registry limit schema)
      (next, .ok .collected)
  | .resolveList name? =>
      match collector.kind, collector.registry.simpleType? name? with
      | .arrays _, _ => (collector, .error .noListTypes)
      | .lists, none => (collector, .ok (.list none))
      | .lists, some type =>
          let limit := collector.registry.walkDepth 0
          let (next, found?) := collector.afterCall
            (Collecting.callListType collector.registry limit type)
          (next, .ok (.list found?.join))

end Collector

end SchemaBridge
