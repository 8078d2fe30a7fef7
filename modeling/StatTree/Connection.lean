import StatTree.Config
import StatTree.Row

namespace StatTree

inductive Startup
  | accepts
  | refuses (text : String)
  | unreachable (reason : String)
deriving DecidableEq, Repr

structure Connection where
  setup : List String
deriving DecidableEq, Repr

/-- Connects to a server. A statement timeout is set on the server too, so that statements whose
    caller has gone end there. -/
def Config.connect (config : Config) : Startup → Except DatabaseError Connection
  | .accepts =>
    .ok ⟨config.statementTimeoutMs.toList.map fun ms => "SET statement_timeout = " ++ toString ms⟩
  | .refuses text => .error (.server text)
  | .unreachable reason => .error (.unreachable reason)

namespace Connection

def healthStatement : String := "SELECT 1 as health"

def isHealthy (answer : Except DatabaseError (List Row)) : Except DatabaseError Bool := do
  match ← answer with
  | [] => .error .rowNotFound
  | row :: _ => return (← row.integer "health") == some 1

end Connection

end StatTree
