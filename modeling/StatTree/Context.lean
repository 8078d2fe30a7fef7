import StatTree.Config

namespace StatTree

inductive Work (α : Type)
  | ends (after : Duration) (result : Except DatabaseError α)
  | never

inductive HandleAct
  | cancel
  | drop
deriving DecidableEq, Repr

abbrev Signal := List (Duration × HandleAct)

/-- A bound on work. Clones of a context share its signal, so they are equal to it. -/
structure QueryContext where
  timeout : Option Duration := none
  signal : Option Signal := none
deriving DecidableEq, Repr

namespace QueryContext

def unbounded : QueryContext := {}

def cancellable (signal : Signal) : QueryContext := { signal := some signal }

def withTimeout (context : QueryContext) (limit : Duration) : QueryContext :=
  { context with timeout := some limit }

def earlier : Option Duration → Option Duration → Option Duration
  | some a, some b => some (if a.nanoseconds ≤ b.nanoseconds then a else b)
  | some a, none => some a
  | none, b => b

def firstCancel : Signal → Option Duration
  | [] => none
  | (time, .cancel) :: rest => earlier (some time) (firstCancel rest)
  | (_, .drop) :: rest => firstCancel rest

def cancelTime (context : QueryContext) : Option Duration := context.signal.bind firstCancel

def isCancelled (context : QueryContext) (now : Duration) : Bool :=
  context.cancelTime.any fun time => time.nanoseconds ≤ now.nanoseconds

/-- How work ends without regard to cancellation. Work that ends just at its deadline has ended
    in time. -/
def untilDeadline (timeout : Option Duration) (start : Duration) :
    Work α → Option (Except ExecutionError α × Duration)
  | .ends after result =>
    let done := some (result.mapError .database, start.add after)
    match timeout with
    | some limit =>
      if after.nanoseconds ≤ limit.nanoseconds then done
      else some (.error (.timedOut limit), start.add limit)
    | none => done
  | .never => timeout.map fun limit => (.error (.timedOut limit), start.add limit)

/-- Runs work from a time on: its outcome and the time of it, if it ever ends. A context that is
    cancelled already does not even begin. -/
def run (context : QueryContext) (start : Duration) (work : Work α) :
    Option (Except ExecutionError α × Duration) :=
  if context.isCancelled start then some (.error .cancelled, start)
  else
    match untilDeadline context.timeout start work, context.cancelTime with
    | some (outcome, time), some cancel =>
      if cancel.nanoseconds < time.nanoseconds then some (.error .cancelled, cancel)
      else some (outcome, time)
    | some done, none => some done
    | none, some cancel => some (.error .cancelled, cancel)
    | none, none => none

structure Lap (α : Type) where
  before : Bool
  outcome : Except ExecutionError α
  after : Bool

def runAll (context : QueryContext) (start : Duration) :
    List (Work α) → Option (List (Lap α))
  | [] => some []
  | work :: rest => do
    let (outcome, time) ← context.run start work
    let lap := ⟨context.isCancelled start, outcome, context.isCancelled time⟩
    return lap :: (← context.runAll time rest)

end QueryContext

def Config.queryContext (config : Config) : QueryContext := { timeout := config.statementTimeout }

end StatTree
