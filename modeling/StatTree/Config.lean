import StatTree.Error
import StatTree.Json

namespace StatTree

structure Config where
  databaseUrl : String := "postgresql://localhost/postgres"
  version : Option Version := none
  maxConnections : UInt32 := 5
  statementTimeoutMs : Option UInt64 := none
  environment : String := "development"
deriving DecidableEq, Repr

inductive ConfigField
  | databaseUrl
  | version
  | maxConnections
  | statementTimeoutMs
  | environment
deriving DecidableEq, Repr

namespace ConfigField

def all : List ConfigField :=
  [.databaseUrl, .version, .maxConnections, .statementTimeoutMs, .environment]

def key : ConfigField → String
  | .databaseUrl => "database_url"
  | .version => "postgres_version"
  | .maxConnections => "max_connections"
  | .statementTimeoutMs => "statement_timeout_ms"
  | .environment => "environment"

def position (field : ConfigField) : Nat := all.idxOf field

end ConfigField

namespace Config

/-- The configuration, if it is valid; the address is looked at before the connections. -/
def validated (config : Config) : Except ConfigFault Config :=
  if config.databaseUrl = "" then .error .emptyDatabaseUrl
  else if config.maxConnections = 0 then .error .noConnections
  else .ok config

def statementTimeout (config : Config) : Option Duration :=
  config.statementTimeoutMs.map fun ms => .ofMilliseconds ms.toNat

def fieldJson (config : Config) : ConfigField → Json
  | .databaseUrl => .text config.databaseUrl
  | .version => match config.version with
    | some version => .text version.text
    | none => .null
  | .maxConnections => .integer config.maxConnections.toNat
  | .statementTimeoutMs => match config.statementTimeoutMs with
    | some ms => .integer ms.toNat
    | none => .null
  | .environment => .text config.environment

def toJson (config : Config) : Json :=
  .object (ConfigField.all.map fun field => (field.key, config.fieldJson field))

def fieldOr (fallback : α) (read : Json → Option α) : Option Json → Option α
  | some value => read value
  | none => some fallback

def ofFields? (find : ConfigField → Option Json) : Option Config := do
  let databaseUrl ← fieldOr ({} : Config).databaseUrl Json.text? (find .databaseUrl)
  let version ← fieldOr none (Json.nullable fun value => value.caseName?.bind Version.ofName?)
    (find .version)
  let maxConnections ← fieldOr ({} : Config).maxConnections
    (fun value => (value.natBelow? UInt32.size).map UInt32.ofNat) (find .maxConnections)
  let statementTimeoutMs ← fieldOr none
    (Json.nullable fun value => (value.natBelow? UInt64.size).map UInt64.ofNat)
    (find .statementTimeoutMs)
  let environment ← fieldOr ({} : Config).environment Json.text? (find .environment)
  return { databaseUrl, version, maxConnections, statementTimeoutMs, environment }

/-- Reads a stored form: an object, whose unknown keys are ignored, or an array of the leading
    fields in order. -/
def ofJson? : Json → Option Config
  | .object members => ofFields? fun field => (Json.object members).member? field.key
  | .array elements =>
    if elements.length ≤ ConfigField.all.length then
      ofFields? fun field => elements[field.position]?
    else none
  | _ => none

end Config

end StatTree
