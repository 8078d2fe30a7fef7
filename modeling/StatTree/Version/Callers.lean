import StatTree.Runner
import StatTree.Version.Gate

namespace StatTree.Gate

inductive Action
  | step (step : Step)
  | views
  | viewsOf (version : Version)
  | runner (context : Option QueryContext)
  | runnerOf (version : Version)

inductive Product
  | answer (answer : Except QueryError Answer)
  | views (version : Version)
  | runner (runner : Runner)

def act (gate : Gate) : Action → Product × Gate
  | .step step =>
    let (next, answer) := gate.step step
    (.answer answer, next)
  | .views =>
    let (version, next) := gate.getOrDefault
    (.views version, next)
  | .viewsOf version => (.views version, gate)
  | .runner context =>
    let (version, next) := gate.getOrDefault
    (.runner ⟨version, context⟩, next)
  | .runnerOf version => (.runner ⟨version, none⟩, gate)

def Action.requested? : Action → Option Version
  | .step (.set version) => some version
  | .step (.apply version) => version
  | _ => none

/-- An action that was begun, with its product once that is there. -/
structure Call where
  action : Action
  product : Option Product

/-- The second access of a call: a write that was refused reports the generation that stands. -/
def Call.finish (gate : Gate) (call : Call) : Call :=
  match call.product, call.action.requested? with
  | none, some requested =>
    let current := gate.version.getD requested
    { call with product := some (.answer (.error (.versionAlreadySet current))) }
  | _, _ => call

/-- A gate with all calls of it so far, told apart by the order of their first accesses. A caller
    that waits for one call before it makes the next only leaves some of the orders out. -/
structure Shared where
  gate : Gate := .fresh
  calls : List Call := []

inductive Access
  | begins (action : Action)
  | reads (index : Nat)

namespace Shared

/-- The first access of a call. A write to a gate that is set leaves it alone and has no product
    yet. -/
def begin (shared : Shared) (action : Action) : Shared :=
  if action.requested?.isSome && shared.gate.isSet then
    { shared with calls := shared.calls ++ [⟨action, none⟩] }
  else
    let (product, gate) := shared.gate.act action
    { gate, calls := shared.calls ++ [⟨action, some product⟩] }

def access (shared : Shared) : Access → Shared
  | .begins action => shared.begin action
  | .reads index =>
    { shared with calls := shared.calls.modify index (Call.finish shared.gate) }

def run (shared : Shared) (accesses : List Access) : Shared := accesses.foldl access shared

end Shared

end StatTree.Gate
