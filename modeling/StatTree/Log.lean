namespace StatTree

inductive LogLevel
  | error
  | warn
  | info
  | debug
  | trace
deriving DecidableEq, Repr

namespace LogLevel

def text : LogLevel → String
  | .error => "ERROR"
  | .warn => "WARN"
  | .info => "INFO"
  | .debug => "DEBUG"
  | .trace => "TRACE"

def verbosity : LogLevel → Nat
  | .error => 1
  | .warn => 2
  | .info => 3
  | .debug => 4
  | .trace => 5

end LogLevel

structure LogSpan where
  name : String
  module : String
  fields : List (String × String)
deriving DecidableEq, Repr

def LogSpan.fetch (root : String) : LogSpan :=
  { name := "fetch", module := "pgstat_query::runner", fields := [("root", root)] }

inductive LogValue
  | text (value : String)
  | count (value : Nat)
  | processId
  | timestamp
  | elapsed
deriving DecidableEq, Repr

/-- An event. The module is the path by which filters know where it happened. A field without a
    value is not written, but filters know it too. -/
structure LogEvent where
  level : LogLevel
  module : String
  message : String
  fields : List (String × Option LogValue) := []
  span : Option LogSpan := none
deriving DecidableEq, Repr

namespace LogEvent

def within (span : LogSpan) (event : LogEvent) : LogEvent := { event with span := some span }

def fieldNames (event : LogEvent) : List String := "message" :: event.fields.map (·.1)

def written (event : LogEvent) : List (String × LogValue) :=
  event.fields.filterMap fun (name, value) => value.map (name, ·)

def textField (name text : String) : String × Option LogValue := (name, some (.text text))

def logging : String := "pgstat_query::logging"

def started (environment : String) : LogEvent :=
  { level := .info, module := logging, message := "structured logging initialized"
    fields := [("pid", some .processId), textField "environment" environment] }

def queryOperation (operation relation status : String) (duration : Option LogValue)
    (rows : Option Nat) (details : Option String) : LogEvent :=
  { level := .info, module := logging, message := "QUERY_OPERATION"
    fields := [textField "operation" operation, textField "relation" relation,
      textField "status" status, ("duration_ms", duration), ("rows", rows.map .count),
      ("details", details.map .text), ("timestamp", some .timestamp)] }

def failure (component operation error : String) (context : Option String) : LogEvent :=
  { level := .error, module := logging, message := "ERROR"
    fields := [textField "component" component, textField "operation" operation,
      textField "error" error, ("context", context.map .text), ("timestamp", some .timestamp)] }

end LogEvent

end StatTree
