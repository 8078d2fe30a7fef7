import StatTree.Proofs.Forall2
import StatTree.Proofs.Runner.Journal

namespace StatTree

variable {σ α : Type}

def Cell.isNull : Cell → Bool
  | .integer none | .json none | .text none => true
  | _ => false

inductive Row.Leads : Row → Except DatabaseError (Option Json) → Prop
  | missing : Leads [] (.error (.columnOutOfBounds 0 0))
  | null {name : String} {cell : Cell} {rest : Row} (isNull : cell.isNull = true) :
    Leads ((name, cell) :: rest) (.ok none)
  | json {name : String} {value : Json} {rest : Row} :
    Leads ((name, .json (some value)) :: rest) (.ok (some value))
  | other {name : String} {cell : Cell} {rest : Row} (filled : cell.isNull = false)
    (isOther : ∀ value, cell ≠ .json value) :
    Leads ((name, cell) :: rest) (.error (.typeMismatch "0"))

namespace Runner

/-- How a call may end, given what the executor answers to each statement. -/
inductive Ends (runner : Runner) (decode : Row → Except DatabaseError α)
    (answer : String → Except ExecutionError (List Row)) :
    Call → Except QueryError (Answer α) → Prop
  | fetchRefused {query : Query} {cause : QueryError} (refused : query.compile = .error cause) :
    Ends runner decode answer (.fetch query) (.error cause)
  | fetchFailed {query : Query} {sql : String} {cause : ExecutionError}
    (compiled : query.compile = .ok sql) (failed : answer sql = .error cause) :
    Ends runner decode answer (.fetch query) (.error (.execution "querying rows" cause))
  | fetched {query : Query} {sql : String} {rows : List Row}
    (compiled : query.compile = .ok sql) (answered : answer sql = .ok rows) :
    Ends runner decode answer (.fetch query) (.ok (.rows rows))
  | mismatched {operation : TypedOperation} {filter : String} {joins : List Query}
    (other : operation.version ≠ runner.version) :
    Ends runner decode answer (.typed operation filter joins)
      (.error (.versionMismatch operation.version runner.version))
  | refused {operation : TypedOperation} {filter : String} {joins : List Query} {cause : QueryError}
    (own : operation.version = runner.version)
    (refused : (operation.query filter joins).compile = .error cause) :
    Ends runner decode answer (.typed operation filter joins) (.error cause)
  | failed {operation : TypedOperation} {filter : String} {joins : List Query} {sql : String}
    {cause : ExecutionError} (own : operation.version = runner.version)
    (compiled : (operation.query filter joins).compile = .ok sql)
    (failed : answer sql = .error cause) :
    Ends runner decode answer (.typed operation filter joins)
      (.error (.execution "querying rows" cause))
  | undecoded {operation : TypedOperation} {filter : String} {joins : List Query} {sql : String}
    {before after : List Row} {row : Row} {cause : DatabaseError}
    (own : operation.version = runner.version)
    (compiled : (operation.query filter joins).compile = .ok sql)
    (answered : answer sql = .ok (before ++ row :: after))
    (sooner : ∀ other ∈ before, ∃ value, decode other = .ok value)
    (fails : decode row = .error cause) :
    Ends runner decode answer (.typed operation filter joins)
      (.error (.rowDecode ("scanning " ++ operation.view.view.target.name ++ " row") cause))
  | decoded {operation : TypedOperation} {filter : String} {joins : List Query} {sql : String}
    {rows : List Row} {values : List α} (own : operation.version = runner.version)
    (compiled : (operation.query filter joins).compile = .ok sql)
    (answered : answer sql = .ok rows)
    (each : List.Forall₂ (fun row value => decode row = .ok value) rows values) :
    Ends runner decode answer (.typed operation filter joins) (.ok (.decoded values))
  | tupleFailed {address : TupleAddress} {cause : ExecutionError}
    (failed : answer address.text = .error cause) :
    Ends runner decode answer (.tuple address) (.error (.execution "querying tuple" cause))
  | outOfSync {address : TupleAddress} {rows : List Row}
    (answered : answer address.text = .ok rows) (several : 1 < rows.length) :
    Ends runner decode answer (.tuple address) (.error (.tupleOutOfSync address.relation))
  | noTuple {address : TupleAddress} (answered : answer address.text = .ok []) :
    Ends runner decode answer (.tuple address) (.ok (.tuple none))
  | tuple {address : TupleAddress} {row : Row} {value : Option Json}
    (answered : answer address.text = .ok [row]) (leads : row.Leads (.ok value)) :
    Ends runner decode answer (.tuple address) (.ok (.tuple value))
  | tupleUndecoded {address : TupleAddress} {row : Row} {cause : DatabaseError}
    (answered : answer address.text = .ok [row]) (leads : row.Leads (.error cause)) :
    Ends runner decode answer (.tuple address) (.error (.rowDecode "scanning tuple" cause))

variable (runner : Runner) (decode : Row → Except DatabaseError α) (executor : Executor σ)
  (state : σ)

def answer (sql : String) : Except ExecutionError (List Row) :=
  (executor ⟨runner.context, sql⟩ state).1

end Runner

end StatTree
