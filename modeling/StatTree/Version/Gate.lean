import StatTree.Error
import StatTree.Log

namespace StatTree

/-- A set-once holder of the generation. -/
structure Gate where
  version : Option Version := none
deriving DecidableEq, Repr

namespace Gate

def fresh : Gate := {}

def isSet (gate : Gate) : Bool := gate.version.isSome

def set (gate : Gate) (version : Version) : Except QueryError Gate :=
  match gate.version with
  | none => .ok ⟨some version⟩
  | some current => .error (.versionAlreadySet current)

/-- The generation of the gate, which is the default from now on if none was set. -/
def getOrDefault (gate : Gate) : Version × Gate :=
  match gate.version with
  | some version => (version, gate)
  | none => (.default, ⟨some .default⟩)

def apply (gate : Gate) : Option Version → Except QueryError Gate
  | some version => gate.set version
  | none => .ok gate

inductive Step
  | set (version : Version)
  | get
  | isSet
  | getOrDefault
  | apply (version : Option Version)
deriving DecidableEq, Repr

inductive Answer
  | done
  | version (version : Option Version)
  | flag (value : Bool)
deriving DecidableEq, Repr

def settle (gate : Gate) : Except QueryError Gate → Gate × Except QueryError Answer
  | .ok next => (next, .ok .done)
  | .error error => (gate, .error error)

def step (gate : Gate) : Step → Gate × Except QueryError Answer
  | .set version => gate.settle (gate.set version)
  | .get => (gate, .ok (.version gate.version))
  | .isSet => (gate, .ok (.flag gate.isSet))
  | .getOrDefault =>
    let (version, next) := gate.getOrDefault
    (next, .ok (.version (some version)))
  | .apply version => gate.settle (gate.apply version)

def run (gate : Gate) : List Step → List (Except QueryError Answer × Gate)
  | [] => []
  | step :: rest =>
    let (next, answer) := gate.step step
    (answer, next) :: next.run rest

def setEvents (gate : Gate) (version : Version) : List LogEvent :=
  match gate.version with
  | none =>
    [{ level := .debug, module := "pgstat_query::version", message := "postgres version set"
       fields := [LogEvent.textField "version" version.text] }]
  | some current =>
    [{ level := .warn, module := "pgstat_query::version"
       message := "postgres version already set"
       fields :=
        [LogEvent.textField "requested" version.text,
          LogEvent.textField "current" current.text] }]

def events (gate : Gate) : Step → List LogEvent
  | .set version => gate.setEvents version
  | .apply (some version) => gate.setEvents version
  | .getOrDefault =>
    if gate.isSet then []
    else
      [{ level := .debug, module := "pgstat_query::version"
         message := "no postgres version set, applying default"
         fields := [LogEvent.textField "version" Version.default.text] }]
  | _ => []

end Gate

end StatTree
