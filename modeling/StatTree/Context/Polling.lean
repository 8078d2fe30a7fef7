import StatTree.Context

namespace StatTree

inductive Happening (α : Type)
  | ended (result : Except DatabaseError α)
  | deadline
  | handle (act : HandleAct)

/-- What the handles of a signal and the contexts that listen to it have in common. The signal
    keeps its last value, also when no handle is left. A handle that is cloned from another one
    counts from the start on: there is none to clone once all are dropped. -/
structure Channel where
  cancelled : Bool := false
  handles : Nat

def Channel.after (channel : Channel) : HandleAct → Channel
  | .cancel => { channel with cancelled := true }
  | .drop => { channel with handles := channel.handles - 1 }

/-- A run that has begun, as the task that is polled for it. -/
structure Race (α : Type) where
  timeout : Option Duration
  channel : Option Channel
  /-- Whether the run still waits for its signal. It stops for good when it finds that no handle is
      left. -/
  listening : Bool := true
  result : Option (Except DatabaseError α) := none
  late : Bool := false
  polls : Nat := 0

namespace Race

def meet (race : Race α) : Happening α → Race α
  | .ended result => { race with result := some result }
  | .deadline => { race with late := true }
  | .handle act => { race with channel := race.channel.map (·.after act) }

def bounded (race : Race α) : Option (Except ExecutionError α) :=
  match race.result, race.timeout with
  | some result, _ => some (result.mapError .database)
  | none, some limit => if race.late then some (.error (.timedOut limit)) else none
  | none, none => none

def pollWork (race : Race α) : Option (Except ExecutionError α) × Race α :=
  (race.bounded, { race with polls := race.polls + 1 })

def pollSignal (race : Race α) : Option (Except ExecutionError α) × Race α :=
  match race.channel with
  | none => (none, race)
  | some channel =>
    if !race.listening then (none, race)
    else if channel.cancelled then (some (.error .cancelled), race)
    else if channel.handles = 0 then (none, { race with listening := false })
    else (none, race)

def either (first second : Race α → Option (Except ExecutionError α) × Race α) (race : Race α) :
    Option (Except ExecutionError α) × Race α :=
  match first race with
  | (some outcome, race) => (some outcome, race)
  | (none, race) => second race

def poll (signalFirst : Bool) : Race α → Option (Except ExecutionError α) × Race α :=
  if signalFirst then either pollSignal pollWork else either pollWork pollSignal

/-- Something happens, or the task is polled. The order of a poll is the scheduler's to pick. -/
inductive Step (α : Type)
  | happens (time : Duration) (happening : Happening α)
  | poll (signalFirst : Bool)

def drive (race : Race α) : List (Step α) → Option (Except ExecutionError α) × Nat
  | [] => (none, race.polls)
  | .happens _ happening :: rest => (race.meet happening).drive rest
  | .poll signalFirst :: rest =>
    match race.poll signalFirst with
    | (some outcome, race) => (some outcome, race.polls)
    | (none, race) => race.drive rest

end Race

def Channel.start (handles : Nat) (acts : List HandleAct) : Channel :=
  acts.foldl Channel.after { handles }

/-- Runs work under a context whose signal has some handles: what they did before the run, and the
    steps of the run. A context that is cancelled already does not even begin. -/
def QueryContext.polled (context : QueryContext) (handles : Nat)
    (before : List (Duration × HandleAct)) (during : List (Race.Step α)) :
    Option (Except ExecutionError α) × Nat :=
  let channel := context.signal.map fun _ => Channel.start handles (before.map Prod.snd)
  if channel.any Channel.cancelled then (some (.error .cancelled), 0)
  else Race.drive { timeout := context.timeout, channel } during

end StatTree
