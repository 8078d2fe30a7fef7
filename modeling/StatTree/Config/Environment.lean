import StatTree.Config

namespace StatTree

inductive Variable
  | databaseUrl
  | commonDatabaseUrl
  | version
  | maxConnections
  | statementTimeoutMs
  | environment
  | commonEnvironment
  | logFilter
  | logFormat
deriving DecidableEq, Repr

namespace Variable

def all : List Variable :=
  [.databaseUrl, .commonDatabaseUrl, .version, .maxConnections, .statementTimeoutMs, .environment,
    .commonEnvironment, .logFilter, .logFormat]

def name : Variable → String
  | .databaseUrl => "PGSTAT_DATABASE_URL"
  | .commonDatabaseUrl => "DATABASE_URL"
  | .version => "PGSTAT_POSTGRES_VERSION"
  | .maxConnections => "PGSTAT_MAX_CONNECTIONS"
  | .statementTimeoutMs => "PGSTAT_STATEMENT_TIMEOUT_MS"
  | .environment => "PGSTAT_ENV"
  | .commonEnvironment => "APP_ENV"
  | .logFilter => "RUST_LOG"
  | .logFormat => "PGSTAT_LOG_FORMAT"

def ofName? (name : String) : Option Variable := all.find? (·.name == name)

end Variable

abbrev Environment := Variable → Option String

namespace Environment

/-- The environment of variables given as bytes. Bytes that are not UTF-8 leave the variable
    unset; of two entries for one variable the later counts. -/
def ofBytes (entries : List (Variable × ByteArray)) : Environment := fun wanted =>
  ((entries.reverse.find? (·.1 == wanted)).map (·.2)).bind String.fromUTF8?

def override (environment : Environment) : ConfigField → Option String
  | .databaseUrl => (environment .databaseUrl).or (environment .commonDatabaseUrl)
  | .version => environment .version
  | .maxConnections => environment .maxConnections
  | .statementTimeoutMs => environment .statementTimeoutMs
  | .environment => environment .environment

end Environment

namespace Config

def readInteger (bound : Nat) (field : ConfigField) (source : String) : Except ConfigFault Nat :=
  (Text.readBelow bound source).mapError (.invalidInteger field.key)

def withText (config : Config) (field : ConfigField) (source : String) :
    Except ConfigFault Config :=
  match field with
  | .databaseUrl => .ok { config with databaseUrl := source }
  | .version => (Version.read source).map fun version => { config with version := some version }
  | .maxConnections => (readInteger UInt32.size field source).map fun n =>
    { config with maxConnections := .ofNat n }
  | .statementTimeoutMs => (readInteger UInt64.size field source).map fun n =>
    { config with statementTimeoutMs := some (.ofNat n) }
  | .environment => .ok { config with environment := source }

def withTexts (texts : ConfigField → Option String) :
    Config → List ConfigField → Except ConfigFault Config
  | config, [] => .ok config
  | config, field :: rest =>
    match texts field with
    | some source => do withTexts texts (← config.withText field source) rest
    | none => withTexts texts config rest

/-- The defaults overridden by the environment. The first field that cannot be read decides the
    fault; validity is not looked at. -/
def ofEnvironment (environment : Environment) : Except ConfigFault Config :=
  withTexts environment.override {} ConfigField.all

end Config

end StatTree
