import StatTree.ColumnList

namespace StatTree.ColumnList.Postgres13

def lock : ColumnList where
  name := "postgres13::Lock"
  relation := "pg_locks"
  columns := ["locktype", "database", "relation", "page", "tuple", "virtualxid", "transactionid",
    "classid", "objid", "objsubid", "virtualtransaction", "pid", "mode", "granted", "fastpath"]

def statActivity : ColumnList where
  name := "postgres13::StatActivity"
  relation := "pg_stat_activity"
  columns := ["datid", "datname", "pid", "leader_pid", "usesysid", "usename", "application_name",
    "client_addr", "client_hostname", "client_port", "backend_start", "xact_start", "query_start",
    "state_change", "wait_event_type", "wait_event", "state", "backend_xid", "backend_xmin",
    "query", "backend_type"]

def statReplication : ColumnList where
  name := "postgres13::StatReplication"
  relation := "pg_stat_replication"
  columns := ["pid", "usesysid", "usename", "application_name", "client_addr", "client_hostname",
    "client_port", "backend_start", "backend_xmin", "state", "sent_lsn", "write_lsn", "flush_lsn",
    "replay_lsn", "write_lag", "flush_lag", "replay_lag", "sync_priority", "sync_state",
    "reply_time"]

def statSsl : ColumnList where
  name := "postgres13::StatSsl"
  relation := "pg_stat_ssl"
  columns := ["pid", "ssl", "version", "cipher", "bits", "compression", "client_dn",
    "client_serial", "issuer_dn"]

def statGssapi : ColumnList where
  name := "postgres13::StatGssapi"
  relation := "pg_stat_gssapi"
  columns := ["pid", "gss_authenticated", "principal", "encrypted"]

def statWalReceiver : ColumnList where
  name := "postgres13::StatWalReceiver"
  relation := "pg_stat_wal_receiver"
  columns := ["pid", "status", "receive_start_lsn", "receive_start_tli", "written_lsn",
    "flushed_lsn", "received_tli", "last_msg_send_time", "last_msg_receipt_time",
    "latest_end_lsn", "latest_end_time", "slot_name", "sender_host", "sender_port", "conninfo"]

def statSubscription : ColumnList where
  name := "postgres13::StatSubscription"
  relation := "pg_stat_subscription"
  columns := ["subid", "subname", "pid", "relid", "received_lsn", "last_msg_send_time",
    "last_msg_receipt_time", "latest_end_lsn", "latest_end_time"]

def statDatabase : ColumnList where
  name := "postgres13::StatDatabase"
  relation := "pg_stat_database"
  columns := ["datid", "datname", "numbackends", "xact_commit", "xact_rollback", "blks_read",
    "blks_hit", "tup_returned", "tup_fetched", "tup_inserted", "tup_updated", "tup_deleted",
    "conflicts", "temp_files", "temp_bytes", "deadlocks", "checksum_failures",
    "checksum_last_failure", "blk_read_time", "blk_write_time", "stats_reset"]

def statDatabaseConflicts : ColumnList where
  name := "postgres13::StatDatabaseConflicts"
  relation := "pg_stat_database_conflicts"
  columns := ["datid", "datname", "confl_tablespace", "confl_lock", "confl_snapshot",
    "confl_bufferpin", "confl_deadlock"]

def statTable : ColumnList where
  name := "postgres13::StatTable"
  relation := "pg_stat_user_tables"
  columns := ["relid", "schemaname", "relname", "seq_scan", "seq_tup_read", "idx_scan",
    "idx_tup_fetch", "n_tup_ins", "n_tup_upd", "n_tup_del", "n_tup_hot_upd", "n_live_tup",
    "n_dead_tup", "n_mod_since_analyze", "n_ins_since_vacuum", "vacuum_count", "last_vacuum",
    "autovacuum_count", "last_autovacuum", "analyze_count", "last_analyze", "autoanalyze_count",
    "last_autoanalyze"]

def statIndex : ColumnList where
  name := "postgres13::StatIndex"
  relation := "pg_stat_user_indexes"
  columns := ["relid", "indexrelid", "schemaname", "relname", "indexrelname", "idx_scan",
    "idx_tup_read", "idx_tup_fetch"]

def statIoIndex : ColumnList where
  name := "postgres13::StatIoIndex"
  relation := "pg_statio_user_indexes"
  columns := ["relid", "indexrelid", "schemaname", "relname", "indexrelname", "idx_blks_read",
    "idx_blks_hit"]

def statIoSequence : ColumnList where
  name := "postgres13::StatIoSequence"
  relation := "pg_statio_user_sequences"
  columns := ["relid", "schemaname", "relname", "blks_read", "blks_hit"]

def statIoTable : ColumnList where
  name := "postgres13::StatIoTable"
  relation := "pg_statio_user_tables"
  columns := ["relid", "schemaname", "relname", "heap_blks_read", "heap_blks_hit",
    "idx_blks_read", "idx_blks_hit", "toast_blks_read", "toast_blks_hit", "tidx_blks_read",
    "tidx_blks_hit"]

def statUserFunction : ColumnList where
  name := "postgres13::StatUserFunction"
  relation := "pg_stat_user_functions"
  columns := ["funcid", "schemaname", "funcname", "calls", "total_time", "self_time"]

def statArchiver : ColumnList where
  name := "postgres13::StatArchiver"
  relation := "pg_stat_archiver"
  columns := ["archived_count", "last_archived_wal", "last_archived_time", "failed_count",
    "last_failed_wal", "last_failed_time", "stats_reset"]

def statBgWriter : ColumnList where
  name := "postgres13::StatBgWriter"
  relation := "pg_stat_bgwriter"
  columns := ["checkpoints_timed", "checkpoints_req", "checkpoint_write_time",
    "checkpoint_sync_time", "buffers_checkpoint", "buffers_clean", "maxwritten_clean",
    "buffers_backend", "buffers_backend_fsync", "buffers_alloc", "stats_reset"]

def statSlru : ColumnList where
  name := "postgres13::StatSlru"
  relation := "pg_stat_slru"
  columns := ["name", "blks_zeroed", "blks_hit", "blks_read", "blks_written", "blks_exists",
    "flushes", "truncates", "stats_reset"]

def all : List ColumnList := [lock, statActivity, statReplication, statSsl, statGssapi,
  statWalReceiver, statSubscription, statDatabase, statDatabaseConflicts, statTable, statIndex,
  statIoIndex, statIoSequence, statIoTable, statUserFunction, statArchiver, statBgWriter,
  statSlru]

end StatTree.ColumnList.Postgres13
