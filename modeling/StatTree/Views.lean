import StatTree.ColumnList.Postgres9
import StatTree.ColumnList.Postgres13
import StatTree.Query

namespace StatTree

inductive View
  | locks
  | locksOnTxId
  | statActivity
  | statReplication
  | statSsl
  | statGssapi
  | statWalReceiver
  | statSubscription
  | statDatabase
  | statDatabaseConflicts
  | statUserTables
  | statUserIndexes
  | statIoUserIndexes
  | statIoUserSequences
  | statIoUserTables
  | statUserFunctions
  | statArchiver
  | statBgWriter
  | statSlru
deriving DecidableEq, Repr

namespace View

def all : List View :=
  [.locks, .locksOnTxId, .statActivity, .statReplication, .statSsl, .statGssapi,
    .statWalReceiver, .statSubscription, .statDatabase, .statDatabaseConflicts, .statUserTables,
    .statUserIndexes, .statIoUserIndexes, .statIoUserSequences, .statIoUserTables,
    .statUserFunctions, .statArchiver, .statBgWriter, .statSlru]

def name : View → String
  | .locks => "locks"
  | .locksOnTxId => "locks_on_tx_id"
  | .statActivity => "stat_activity"
  | .statReplication => "stat_replication"
  | .statSsl => "stat_ssl"
  | .statGssapi => "stat_gssapi"
  | .statWalReceiver => "stat_wal_receiver"
  | .statSubscription => "stat_subscription"
  | .statDatabase => "stat_database"
  | .statDatabaseConflicts => "stat_database_conflicts"
  | .statUserTables => "stat_user_tables"
  | .statUserIndexes => "stat_user_indexes"
  | .statIoUserIndexes => "statio_user_indexes"
  | .statIoUserSequences => "statio_user_sequences"
  | .statIoUserTables => "statio_user_tables"
  | .statUserFunctions => "stat_user_functions"
  | .statArchiver => "stat_archiver"
  | .statBgWriter => "stat_bgwriter"
  | .statSlru => "stat_slru"

def ofName? (name : String) : Option View := all.find? (·.name == name)

def target : View → Target
  | .locks => .locks
  | .locksOnTxId => .locksOnTxId
  | .statActivity => .statActivity
  | .statReplication => .statReplication
  | .statSsl => .statSsl
  | .statGssapi => .statGssapi
  | .statWalReceiver => .statWalReceiver
  | .statSubscription => .statSubscription
  | .statDatabase => .statDatabase
  | .statDatabaseConflicts => .statDatabaseConflicts
  | .statUserTables => .statUserTables
  | .statUserIndexes => .statUserIndexes
  | .statIoUserIndexes => .statIoUserIndexes
  | .statIoUserSequences => .statIoUserSequences
  | .statIoUserTables => .statIoUserTables
  | .statUserFunctions => .statUserFunctions
  | .statArchiver => .statArchiver
  | .statBgWriter => .statBgWriter
  | .statSlru => .statSlru

open ColumnList in
/-- The columns of a view in a generation. A view that the generation lacks has none; it is a node
    without a target, which can be neither compiled nor joined. -/
def columns : View → Version → Option ColumnList
  | .locks, .postgres9 | .locksOnTxId, .postgres9 => some Postgres9.lock
  | .statActivity, .postgres9 => some Postgres9.statActivity
  | .statReplication, .postgres9 => some Postgres9.statReplication
  | .statSsl, .postgres9 => some Postgres9.statSsl
  | .statGssapi, .postgres9 | .statSubscription, .postgres9 | .statSlru, .postgres9 => none
  | .statWalReceiver, .postgres9 => some Postgres9.statWalReceiver
  | .statDatabase, .postgres9 => some Postgres9.statDatabase
  | .statDatabaseConflicts, .postgres9 => some Postgres9.statDatabaseConflicts
  | .statUserTables, .postgres9 => some Postgres9.statTable
  | .statUserIndexes, .postgres9 => some Postgres9.statIndex
  | .statIoUserIndexes, .postgres9 => some Postgres9.statIoIndex
  | .statIoUserSequences, .postgres9 => some Postgres9.statIoSequence
  | .statIoUserTables, .postgres9 => some Postgres9.statIoTable
  | .statUserFunctions, .postgres9 => some Postgres9.statUserFunction
  | .statArchiver, .postgres9 => some Postgres9.statArchiver
  | .statBgWriter, .postgres9 => some Postgres9.statBgWriter
  | .locks, .postgres13 | .locksOnTxId, .postgres13 => some Postgres13.lock
  | .statActivity, .postgres13 => some Postgres13.statActivity
  | .statReplication, .postgres13 => some Postgres13.statReplication
  | .statSsl, .postgres13 => some Postgres13.statSsl
  | .statGssapi, .postgres13 => some Postgres13.statGssapi
  | .statWalReceiver, .postgres13 => some Postgres13.statWalReceiver
  | .statSubscription, .postgres13 => some Postgres13.statSubscription
  | .statDatabase, .postgres13 => some Postgres13.statDatabase
  | .statDatabaseConflicts, .postgres13 => some Postgres13.statDatabaseConflicts
  | .statUserTables, .postgres13 => some Postgres13.statTable
  | .statUserIndexes, .postgres13 => some Postgres13.statIndex
  | .statIoUserIndexes, .postgres13 => some Postgres13.statIoIndex
  | .statIoUserSequences, .postgres13 => some Postgres13.statIoSequence
  | .statIoUserTables, .postgres13 => some Postgres13.statIoTable
  | .statUserFunctions, .postgres13 => some Postgres13.statUserFunction
  | .statArchiver, .postgres13 => some Postgres13.statArchiver
  | .statBgWriter, .postgres13 => some Postgres13.statBgWriter
  | .statSlru, .postgres13 => some Postgres13.statSlru

def query (view : View) (version : Version) : Query :=
  match view.columns version with
  | some columns => .reading view.target columns
  | none => .unavailable .unspecified

end View

def blockingPids : Query := .selecting .blockingPids

def ColumnList.all : List ColumnList := Postgres9.all ++ Postgres13.all

def ColumnList.ofName? (name : String) : Option ColumnList := all.find? (·.name == name)

end StatTree
