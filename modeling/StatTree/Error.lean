import StatTree.Duration
import StatTree.Target
import StatTree.Version
import StatTree.Text.Digits
import StatTree.Text.Quoted

namespace StatTree

/-- A failure of the database or of the connection to it. It is assumed to have no failure beneath
    it and to say no more than is written here; the failures of a driver may have sources and longer
    texts. -/
inductive DatabaseError
  | protocol (text : String)
  | server (text : String)
  | unreachable (reason : String)
  | rowNotFound
  | columnNotFound (name : String)
  | columnOutOfBounds (index count : Nat)
  | typeMismatch (column : String)
deriving DecidableEq, Repr

def DatabaseError.message : DatabaseError → String
  | .protocol text => "encountered unexpected or invalid data: " ++ text
  | .server text => "error returned from database: " ++ text
  | .unreachable reason => "error communicating with database: " ++ reason
  | .rowNotFound =>
    "no rows returned by a query that expected to return at least one row"
  | .columnNotFound name => "no column found for name: " ++ name
  | .columnOutOfBounds index count =>
    "column index out of bounds: the len is " ++ toString count ++ ", but the index is " ++
      toString index
  | .typeMismatch column =>
    "error occurred while decoding column " ++ column ++ ": mismatched types"

inductive ExecutionError
  | database (cause : DatabaseError)
  | cancelled
  | timedOut (limit : Duration)
deriving DecidableEq, Repr

def ExecutionError.message : ExecutionError → String
  | .database cause => "Database error: " ++ cause.message
  | .cancelled => "query cancelled by caller"
  | .timedOut limit => "query timed out after " ++ limit.text

inductive Unexpected
  | text (value : String)
  | negative (value : Int)
  | unsigned (value : Nat)
  | nothing
  | list
  | table
deriving DecidableEq, Repr

def Unexpected.message : Unexpected → String
  | .text value => "string " ++ Text.quoted value
  | .negative value => "64-bit integer `" ++ toString value ++ "`"
  | .unsigned value => "64-bit unsigned integer `" ++ toString value ++ "`"
  | .nothing => "unit value"
  | .list => "sequence"
  | .table => "map"

inductive Expected
  | integer
  | unsigned64
  | unsigned32
  | text
deriving DecidableEq, Repr

def Expected.message : Expected → String
  | .integer => "an integer"
  | .unsigned64 => "an unsigned 64 bit or less integer"
  | .unsigned32 => "an unsigned 32 bit integer"
  | .text => "a string"

inductive ConfigFault
  | unsupportedVersion (text : String)
  | invalidInteger (key : String) (fault : Text.DigitsFault)
  | emptyDatabaseUrl
  | noConnections
  | fileNotFound (path : String)
  | unregisteredFormat (path : String)
  | malformedFile (path : String)
  | invalidType (found : Unexpected) (expected : Expected) (key : String) (origin : Option String)
  | unknownVersionName (name : String)
  | notAVersionName
  | stated (text : String)
deriving DecidableEq, Repr

def ConfigFault.message : ConfigFault → String
  | .unsupportedVersion text => "unsupported postgres version: " ++ text
  | .invalidInteger key fault => "Invalid " ++ key ++ ": " ++ fault.message
  | .emptyDatabaseUrl => "database_url must not be empty"
  | .noConnections => "max_connections must be at least 1"
  | .fileNotFound path => "configuration file \"" ++ path ++ "\" not found"
  | .unregisteredFormat path =>
    "configuration file \"" ++ path ++ "\" is not of a registered file format"
  | .malformedFile path => "configuration file \"" ++ path ++ "\" cannot be read"
  | .invalidType found expected key origin =>
    "invalid type: " ++ found.message ++ ", expected " ++ expected.message ++ " for key `" ++ key ++
      "`" ++ (match origin with
        | some path => " in " ++ path
        | none => "")
  | .unknownVersionName name =>
    "enum PostgresVersion does not have variant constructor " ++ name
  | .notAVersionName =>
    "value of enum PostgresVersion should be represented by either string or table with exactly " ++
      "one key"
  | .stated text => text

inductive QueryError
  | unsupportedTarget (node : String)
  | unsupportedJoin (parent child : Target)
  | joinFailed (parent child : Target) (cause : QueryError)
  | mutualRecursion
  | versionAlreadySet (current : Version)
  | versionMismatch (requested current : Version)
  | execution (stage : String) (cause : ExecutionError)
  | rowDecode (stage : String) (cause : DatabaseError)
  | tupleOutOfSync (relation : String)
  | configuration (fault : ConfigFault)
deriving DecidableEq, Repr

namespace QueryError

def message : QueryError → String
  | .unsupportedTarget node => "queryable " ++ node ++ " is not supported in this version"
  | .unsupportedJoin parent child =>
    "join between " ++ parent.name ++ " and " ++ child.name ++ " is not supported"
  | .joinFailed parent child cause =>
    "converting join query for " ++ child.name ++ " under " ++ parent.name ++ ": " ++ cause.message
  | .mutualRecursion => "mutual recursion detected"
  | .versionAlreadySet current => "postgres version already set to " ++ current.text
  | .versionMismatch requested current =>
    "unable to run version " ++ requested.text ++ " specific action for current version " ++
      current.text
  | .execution stage cause => stage ++ ": " ++ cause.message
  | .rowDecode stage cause => stage ++ ": " ++ cause.message
  | .tupleOutOfSync relation =>
    "page and tuple state got out of sync for relation " ++ relation
  | .configuration fault => "Configuration error: " ++ fault.message

def rootCause : QueryError → QueryError
  | .joinFailed _ _ cause => cause.rootCause
  | error => error

def joinPath : QueryError → List (Target × Target)
  | .joinFailed parent child cause => (parent, child) :: cause.joinPath
  | _ => []

/-- The messages of the failures that a failure came from, nearest first. That there is none beneath
    a database failure is an assumption about the driver. -/
def sources : QueryError → List String
  | .joinFailed _ _ cause => cause.message :: cause.sources
  | .execution _ (.database cause) => [(ExecutionError.database cause).message, cause.message]
  | .execution _ cause => [cause.message]
  | .rowDecode _ cause => [cause.message]
  | _ => []

end QueryError

namespace Version

def read (source : String) : Except ConfigFault Version :=
  match parse? source with
  | some version => .ok version
  | none => .error (.unsupportedVersion (Text.trimmed source))

def parse (source : String) : Except QueryError Version :=
  (read source).mapError .configuration

end Version

end StatTree
