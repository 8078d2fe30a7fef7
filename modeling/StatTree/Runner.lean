import StatTree.Compile
import StatTree.Context
import StatTree.Log
import StatTree.Row
import StatTree.TupleAddress
import StatTree.Views

namespace StatTree

inductive TypedView
  | statActivity
  | statReplication
  | statUserTables
  | locks
deriving DecidableEq, Repr

def TypedView.view : TypedView → View
  | .statActivity => .statActivity
  | .statReplication => .statReplication
  | .statUserTables => .statUserTables
  | .locks => .locks

structure TypedOperation where
  view : TypedView
  version : Version
deriving DecidableEq, Repr

namespace TypedOperation

def all : List TypedOperation :=
  [TypedView.statActivity, .statReplication, .statUserTables, .locks].flatMap fun view =>
    [⟨view, .postgres9⟩, ⟨view, .postgres13⟩]

def name (operation : TypedOperation) : String :=
  operation.view.view.name ++ (match operation.version with
    | .postgres9 => "_9"
    | .postgres13 => "_13")

def ofName? (name : String) : Option TypedOperation := all.find? (·.name == name)

def query (operation : TypedOperation) (filter : String) (joins : List Query) : Query :=
  ((operation.view.view.query operation.version).withFilter filter).withChildren joins

end TypedOperation

inductive Call
  | fetch (query : Query)
  | tuple (address : TupleAddress)
  | typed (operation : TypedOperation) (filter : String) (joins : List Query)

structure Sent where
  context : Option QueryContext
  sql : String
deriving DecidableEq, Repr

abbrev Executor (σ : Type) := Sent → σ → Except ExecutionError (List Row) × σ

inductive Answer (α : Type)
  | rows (rows : List Row)
  | tuple (value : Option Json)
  | decoded (values : List α)

structure Outcome (α : Type) where
  result : Except QueryError (Answer α)
  sent : List Sent
  events : List LogEvent

def LogEvent.compiled (root : Target) (sql : String) : LogEvent :=
  { level := .debug, module := "pgstat_query::query_builder::compiler"
    message := "compiled queryable"
    fields := [textField "root" root.name, textField "sql" sql] }

namespace Call

def query? : Call → Option Query
  | .fetch query => some query
  | .tuple _ => none
  | .typed operation filter joins => some (operation.query filter joins)

def fetched (answer : Except ExecutionError (List Row)) : Except QueryError (List Row) :=
  answer.mapError (.execution "querying rows")

def tupleValue (relation : String) (answer : Except ExecutionError (List Row)) :
    Except QueryError (Option Json) :=
  match answer with
  | .error cause => .error (.execution "querying tuple" cause)
  | .ok [] => .ok none
  | .ok [row] =>
    (row.cellAt 0 >>= Cell.toJson "0").mapError (.rowDecode "scanning tuple")
  | .ok _ => .error (.tupleOutOfSync relation)

def decodeAll (decode : Row → Except DatabaseError α) (view : Target) (rows : List Row) :
    Except QueryError (List α) :=
  (rows.mapM decode).mapError (.rowDecode ("scanning " ++ view.name ++ " row"))

def finish (call : Call) (decode : Row → Except DatabaseError α)
    (answer : Except ExecutionError (List Row)) : Except QueryError (Answer α) :=
  match call with
  | .fetch _ => (fetched answer).map .rows
  | .tuple address => (tupleValue address.relation answer).map .tuple
  | .typed operation _ _ => do
    let rows ← fetched answer
    (decodeAll decode operation.view.view.target rows).map .decoded

def events (call : Call) (sql : String) (answer : Except ExecutionError (List Row)) :
    List LogEvent :=
  match call.query? with
  | none => []
  | some query =>
    let root := query.target.name
    let ended := match fetched answer with
      | .ok rows => .queryOperation "fetch" root "ok" (some .elapsed) (some rows.length) none
      | .error error => .failure "query_runner" "fetch" error.message (some root)
    [LogEvent.compiled query.target sql, ended].map (LogEvent.within (.fetch root))

end Call

structure Runner where
  version : Version
  context : Option QueryContext := none
deriving DecidableEq, Repr

namespace Runner

def require (runner : Runner) (requested : Version) : Except QueryError Unit :=
  if requested = runner.version then .ok () else .error (.versionMismatch requested runner.version)

def statement (runner : Runner) : Call → Except QueryError String
  | .fetch query => query.compile
  | .tuple address => .ok address.text
  | .typed operation filter joins => do
    runner.require operation.version
    (operation.query filter joins).compile

/-- Carries out a call. A call without a statement does not reach the executor. -/
def perform (runner : Runner) (decode : Row → Except DatabaseError α) (executor : Executor σ)
    (call : Call) (state : σ) : Outcome α × σ :=
  match runner.statement call with
  | .error error => (⟨.error error, [], []⟩, state)
  | .ok sql =>
    let sent : Sent := ⟨runner.context, sql⟩
    let (answer, state) := executor sent state
    (⟨call.finish decode answer, [sent], call.events sql answer⟩, state)

def performAll (runner : Runner) (decode : Row → Except DatabaseError α) :
    List (Executor σ × Call) → σ → List (Outcome α) × σ
  | [], state => ([], state)
  | (executor, call) :: rest, state =>
    let (outcome, state) := runner.perform decode executor call state
    let (outcomes, state) := runner.performAll decode rest state
    (outcome :: outcomes, state)

end Runner

end StatTree
