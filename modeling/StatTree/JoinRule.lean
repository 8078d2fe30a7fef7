import StatTree.Error
import StatTree.Sql.SelectItem

namespace StatTree

/-- How a child's rows are found and gathered for a row of its parent. -/
structure JoinRule where
  parent : Target
  child : Target
  asName : String
  output : String
  childColumn : String
  parentColumn : String
deriving DecidableEq, Repr

namespace JoinRule

def left (rule : JoinRule) : Sql.Column := ⟨rule.asName, rule.childColumn⟩

def right (rule : JoinRule) : Sql.Column := ⟨rule.parent.name, rule.parentColumn⟩

def condition (rule : JoinRule) : String := rule.left.text ++ " = " ++ rule.right.text

def item (rule : JoinRule) : Sql.SelectItem := .array rule.asName rule.output

def rule (parent child : Target) (asName output childColumn parentColumn : String) : JoinRule :=
  ⟨parent, child, asName, output, childColumn, parentColumn⟩

def registry : List JoinRule := [
  rule .statActivity .locks "l" "locks" "pid" "pid",
  rule .statActivity .locksOnTxId "txlock" "tx_locks" "transactionid" "backend_xid",
  rule .statActivity .statSsl "ssl" "ssl_usages" "pid" "pid",
  rule .statActivity .statGssapi "gssapi" "gssapi_usages" "pid" "pid",
  rule .statActivity .statWalReceiver "wal_receiver" "wal_receivers" "pid" "pid",
  rule .statActivity .statSubscription "subscription" "subscriptions" "pid" "pid",
  rule .statActivity .statDatabase "sa_database" "databases" "datid" "datid",
  rule .statActivity .statDatabaseConflicts "database_conflict"
    "database_conflicts" "datid" "datid",
  rule .statReplication .locks "l" "locks" "pid" "pid",
  rule .statReplication .statSsl "ssl" "ssl_usages" "pid" "pid",
  rule .statReplication .statGssapi "gssapi" "gssapi_usages" "pid" "pid",
  rule .statReplication .statWalReceiver "wal_receiver" "wal_receivers" "pid" "pid",
  rule .statUserTables .locks "l" "locks" "relation" "relid",
  rule .statUserTables .statUserIndexes "userindex" "indexes" "relid" "relid",
  rule .statUserTables .statSubscription "subscr" "subscriptions" "relid" "relid",
  rule .statUserTables .statIoUserIndexes "userindex_io" "index_iostats" "relid" "relid",
  rule .statUserTables .statIoUserSequences "usersequence_io" "sequence_iostats" "relid" "relid",
  rule .statUserTables .statIoUserTables "usertable_io" "table_iostats" "relid" "relid",
  rule .locks .statActivity "locks_sa" "activities" "pid" "pid",
  rule .locks .statDatabase "locks_database" "databases" "datid" "database",
  rule .locks .statUserTables "locks_table" "tables" "relid" "relation",
  rule .locks .statUserIndexes "locks_index" "indexes" "relid" "relation",
  rule .locks .statIoUserTables "locks_table_io" "tables_io" "relid" "relation",
  rule .locks .statIoUserIndexes "locks_index_io" "indexes_io" "relid" "relation",
  rule .locks .statIoUserSequences "locks_sequence_io" "sequences_io" "relid" "relation",
  rule .statSsl .locks "ssl_locks" "locks" "pid" "pid",
  rule .statSsl .statActivity "ssl_activities" "activities" "pid" "pid",
  rule .statGssapi .locks "gssapi_locks" "locks" "pid" "pid",
  rule .statGssapi .statActivity "gssapi_activities" "activities" "pid" "pid",
  rule .statWalReceiver .locks "walreceiver_locks" "locks" "pid" "pid",
  rule .statWalReceiver .statActivity "walreceiver_activities" "activities" "pid" "pid",
  rule .statDatabase .statDatabaseConflicts "statdb_dbconflicts" "conflicts" "datid" "datid",
  rule .statDatabase .locks "statdb_locks" "locks" "database" "datid",
  rule .statDatabase .statActivity "statdb_activities" "activities" "datid" "datid",
  rule .statSubscription .locks "subscription_locks" "locks" "pid" "pid",
  rule .statSubscription .statActivity "subscription_activities" "activities" "pid" "pid",
  rule .statUserIndexes .statUserTables "statindex_tables" "tables" "relid" "relid",
  rule .statUserIndexes .statIoUserTables "statindex_tablesio" "tablesio" "relid" "relid",
  rule .statUserIndexes .locks "statindex_locks" "locks" "relation" "indexrelid",
  rule .statUserIndexes .statIoUserIndexes "statindex_indexesio"
    "indexesio" "indexrelid" "indexrelid"]

def find? (parent child : Target) : Option JoinRule :=
  registry.find? fun rule => rule.parent == parent && rule.child == child

def pairs : List (Target × Target) := registry.map fun rule => (rule.parent, rule.child)

end JoinRule

inductive JoinClause
  | subquery (rule : JoinRule)
  | selectOnly (item : Sql.SelectItem)
deriving DecidableEq, Repr

namespace JoinClause

def blockedBy : Sql.SelectItem :=
  .call Target.blockingPids.name ⟨Target.statActivity.name, "pid"⟩ "blocked_by"

def find (parent child : Target) : Except QueryError JoinClause :=
  if parent = .statActivity ∧ child = .blockingPids then .ok (.selectOnly blockedBy)
  else
    match JoinRule.find? parent child with
    | some rule => .ok (.subquery rule)
    | none => .error (.unsupportedJoin parent child)

def item : JoinClause → Sql.SelectItem
  | .subquery rule => rule.item
  | .selectOnly item => item

end JoinClause

end StatTree
