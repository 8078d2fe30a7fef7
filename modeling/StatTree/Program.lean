import StatTree.Config.Environment
import StatTree.Log.Logger
import StatTree.Version.Callers

namespace StatTree

structure Program where
  environment : Environment
  gate : Gate := .fresh
  logger : Option Logger := none
  log : List LogEvent := []

namespace Program

def begun (environment : Environment) : Program := { environment }

def record (program : Program) (events : List LogEvent) : Program :=
  match program.logger with
  | some logger => { program with log := program.log ++ events.filterMap logger.filter.pass? }
  | none => program

def startLogging (program : Program) : Program :=
  match program.logger with
  | some _ => program
  | none =>
    { program with logger := some program.environment.logger }.record
      [.started program.environment.runName]

def step (program : Program) (step : Gate.Step) : Except QueryError Gate.Answer × Program :=
  let (gate, answer) := program.gate.step step
  (answer, { program with gate }.record (program.gate.events step))

def applyEnvironment (program : Program) : Except QueryError Gate.Answer × Program :=
  match Config.ofEnvironment program.environment with
  | .ok config => program.step (.apply config.version)
  | .error fault => (.error (.configuration fault), program)

/-- The generation of the program, which is the default from now on if none was set. Asking for
    the current views comes down to this. -/
def currentVersion (program : Program) : Version × Program :=
  (program.gate.getOrDefault.1, (program.step .getOrDefault).2)

def runner (program : Program) (context : Option QueryContext) : Runner × Program :=
  let (version, program) := program.currentVersion
  (⟨version, context⟩, program)

def act (program : Program) : Gate.Action → Gate.Product × Program
  | .step step =>
    let (answer, program) := program.step step
    (.answer answer, program)
  | .views =>
    let (version, program) := program.currentVersion
    (.views version, program)
  | .viewsOf version => (.views version, program)
  | .runner context =>
    let (runner, program) := program.runner context
    (.runner runner, program)
  | .runnerOf version => (.runner ⟨version, none⟩, program)

def perform (program : Program) (runner : Runner) (decode : Row → Except DatabaseError α)
    (calls : List (Executor σ × Call)) (state : σ) : List (Outcome α) × Program :=
  let (outcomes, _) := runner.performAll decode calls state
  (outcomes, program.record (outcomes.flatMap Outcome.events))

def compile (program : Program) (query : Query) : Except QueryError String × Program :=
  match query.compile with
  | .ok sql => (.ok sql, program.record [.compiled query.target sql])
  | .error error => (.error error, program)

end Program

end StatTree
