namespace StatTree

/-- What a node of a query tree reads. Locks appear twice: joined by process id, and by
    transaction id. -/
inductive Target
  | unspecified
  | locks
  | locksOnTxId
  | statActivity
  | statReplication
  | statSsl
  | statGssapi
  | statWalReceiver
  | statSubscription
  | statDatabase
  | statDatabaseConflicts
  | statUserTables
  | statUserIndexes
  | statIoUserIndexes
  | statIoUserSequences
  | statIoUserTables
  | statUserFunctions
  | statArchiver
  | statBgWriter
  | statSlru
  | blockingPids
deriving DecidableEq, Repr, Inhabited

namespace Target

def all : List Target :=
  [.unspecified, .locks, .locksOnTxId, .statActivity, .statReplication, .statSsl, .statGssapi,
    .statWalReceiver, .statSubscription, .statDatabase, .statDatabaseConflicts, .statUserTables,
    .statUserIndexes, .statIoUserIndexes, .statIoUserSequences, .statIoUserTables,
    .statUserFunctions, .statArchiver, .statBgWriter, .statSlru, .blockingPids]

def name : Target → String
  | .unspecified => ""
  | .locks | .locksOnTxId => "pg_locks"
  | .statActivity => "pg_stat_activity"
  | .statReplication => "pg_stat_replication"
  | .statSsl => "pg_stat_ssl"
  | .statGssapi => "pg_stat_gssapi"
  | .statWalReceiver => "pg_stat_wal_receiver"
  | .statSubscription => "pg_stat_subscription"
  | .statDatabase => "pg_stat_database"
  | .statDatabaseConflicts => "pg_stat_database_conflicts"
  | .statUserTables => "pg_stat_user_tables"
  | .statUserIndexes => "pg_stat_user_indexes"
  | .statIoUserIndexes => "pg_statio_user_indexes"
  | .statIoUserSequences => "pg_statio_user_sequences"
  | .statIoUserTables => "pg_statio_user_tables"
  | .statUserFunctions => "pg_stat_user_functions"
  | .statArchiver => "pg_stat_archiver"
  | .statBgWriter => "pg_stat_bgwriter"
  | .statSlru => "pg_stat_slru"
  | .blockingPids => "pg_blocking_pids"

def label : Target → String
  | .unspecified => "Unspecified"
  | .locks => "Locks"
  | .locksOnTxId => "LocksOnTxId"
  | .statActivity => "StatActivity"
  | .statReplication => "StatReplication"
  | .statSsl => "StatSsl"
  | .statGssapi => "StatGssapi"
  | .statWalReceiver => "StatWalReceiver"
  | .statSubscription => "StatSubscription"
  | .statDatabase => "StatDatabase"
  | .statDatabaseConflicts => "StatDatabaseConflicts"
  | .statUserTables => "StatUserTables"
  | .statUserIndexes => "StatUserIndexes"
  | .statIoUserIndexes => "StatIoUserIndexes"
  | .statIoUserSequences => "StatIoUserSequences"
  | .statIoUserTables => "StatIoUserTables"
  | .statUserFunctions => "StatUserFunctions"
  | .statArchiver => "StatArchiver"
  | .statBgWriter => "StatBgWriter"
  | .statSlru => "StatSlru"
  | .blockingPids => "BlockingPids"

def tag : Target → String
  | .unspecified => "unspecified"
  | .locks => "locks"
  | .locksOnTxId => "locks_on_tx_id"
  | .statActivity => "stat_activity"
  | .statReplication => "stat_replication"
  | .statSsl => "stat_ssl"
  | .statGssapi => "stat_gssapi"
  | .statWalReceiver => "stat_wal_receiver"
  | .statSubscription => "stat_subscription"
  | .statDatabase => "stat_database"
  | .statDatabaseConflicts => "stat_database_conflicts"
  | .statUserTables => "stat_user_tables"
  | .statUserIndexes => "stat_user_indexes"
  | .statIoUserIndexes => "stat_io_user_indexes"
  | .statIoUserSequences => "stat_io_user_sequences"
  | .statIoUserTables => "stat_io_user_tables"
  | .statUserFunctions => "stat_user_functions"
  | .statArchiver => "stat_archiver"
  | .statBgWriter => "stat_bg_writer"
  | .statSlru => "stat_slru"
  | .blockingPids => "blocking_pids"

def ofTag? (tag : String) : Option Target := all.find? (·.tag == tag)

def index (target : Target) : Nat := all.idxOf target

def order (a b : Target) : Ordering := compare a.index b.index

theorem mem_all (target : Target) : target ∈ all := by cases target <;> decide

theorem ofTag?_tag (target : Target) : ofTag? target.tag = some target := by
  cases target <;> rfl

end Target

end StatTree
