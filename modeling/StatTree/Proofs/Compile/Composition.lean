import StatTree.Proofs.Compile.Shape
import StatTree.Proofs.Sql.NormalForm

namespace StatTree

theorem Sql.LeftJoin.spaced_text (join : LeftJoin) :
    " " ++ join.text =
      " LEFT JOIN (" ++ join.subquery ++ ") AS " ++ join.asName ++ " ON " ++ join.condition := by
  have opening : " " ++ "LEFT JOIN (" = " LEFT JOIN (" := by decide
  show " " ++ ("LEFT JOIN (" ++ join.subquery ++ ") AS " ++ join.asName ++ " ON " ++
    join.condition) = _
  rw [← opening]
  simp only [String.append_assoc]

theorem Sql.Statement.joinsText_eq_join (joins : List LeftJoin) :
    joinsText joins = String.join (joins.map fun join =>
      " LEFT JOIN (" ++ join.subquery ++ ") AS " ++ join.asName ++ " ON " ++ join.condition) := by
  simp only [joinsText_eq_join_map, LeftJoin.spaced_text]

namespace Query

theorem IsLevel.groupsText_eq {node : Query} {level : Sql.Select} (shape : IsLevel node level) :
    Sql.Statement.groupsText (level.groupBy.map Sql.Column.text) =
      if node.trueJoins.isEmpty || (baseTexts node.columns).isEmpty then ""
        else " GROUP BY " ++ Text.separated ", " (baseTexts node.columns) := by
  have joins : level.joins.isEmpty = node.trueJoins.isEmpty := by
    rw [Bool.eq_iff_iff, List.isEmpty_iff_length_eq_zero, List.isEmpty_iff_length_eq_zero,
      shape.joins.length_eq]
  have base : baseTexts node.columns = node.baseColumns.map Sql.Column.text := rfl
  rw [shape.groupBy, joins, base]
  cases node.trueJoins.isEmpty <;> cases node.baseColumns <;> rfl

def compiledText (query : Query) : String :=
  match query.compile with
  | .ok sql => sql
  | .error _ => ""

theorem compiledText_eq {query : Query} {sql : String} (compiled : query.compile = .ok sql) :
    query.compiledText = sql := by
  rw [compiledText, compiled]

theorem Lowered.compile_eq {root node : Query} {sql : String} (low : Lowered root node)
    (compiled : root.compile = .ok sql) :
    ∃ statement, node.lower = .ok statement ∧ node.compile = .ok statement.text := by
  obtain ⟨distinct, whole, lowers, _⟩ := compile_eq_ok_iff.mp compiled
  obtain ⟨path, found⟩ := low.exists_at?
  obtain ⟨statement, inner⟩ := low.exists_lower ⟨whole, lowers⟩
  exact ⟨statement, inner, compile_eq_ok_iff.mpr ⟨distinct.below found, statement, inner, rfl⟩⟩

theorem leftJoins_eq_trueJoins {node : Query} {level : Sql.Select} (shape : IsLevel node level)
    (texts : ∀ child rule statement, (child, rule) ∈ node.trueJoins →
      child.lower = .ok statement → child.compiledText = statement.text) :
    level.joins.map Sql.Select.leftJoin = node.trueJoins.map fun join =>
      ⟨join.1.compiledText, join.2.asName, join.2.condition⟩ := by
  have each := (List.forall₂_and_left _ _).mpr ⟨fun _ member => member, shape.joins⟩
  rw [eq_comm, ← List.forall₂_eq_eq_eq, List.forall₂_map_left_iff, List.forall₂_map_right_iff]
  refine each.imp fun join joined found => ?_
  obtain ⟨member, rule, lowers⟩ := found
  rw [texts join.1 join.2 joined.subquery member lowers, ← rule, Sql.Select.leftJoin_eq]

/-- Every lowered node of a tree that compiles also compiles on its own, and each child that it
    joins stands in its text as the text that the child compiles to on its own. -/
theorem compile_lowered {root node : Query} {sql : String} (compiled : root.compile = .ok sql)
    (low : Lowered root node) :
    ∃ text clauses, node.compile = .ok text ∧
      List.Forall₂ (fun child clause => JoinClause.find node.target child.target = .ok clause)
        node.children clauses ∧
      (∀ join ∈ node.trueJoins, join.1.compile = .ok join.1.compiledText) ∧
      text = "SELECT " ++ Text.separated ", "
          (baseTexts node.columns ++ clauses.map fun clause => clause.item.text) ++
        " FROM " ++ node.target.name ++
        String.join (node.trueJoins.map fun join =>
          " LEFT JOIN (" ++ join.1.compiledText ++ ") AS " ++ join.2.asName ++
            " ON " ++ join.2.condition) ++
        (match node.filter with
          | some fragment => " WHERE " ++ fragment
          | none => "") ++
        (if node.trueJoins.isEmpty || (baseTexts node.columns).isEmpty then ""
          else " GROUP BY " ++ Text.separated ", " (baseTexts node.columns)) := by
  obtain ⟨statement, lowers, compiles⟩ := low.compile_eq compiled
  have shape := isLevel_of_lower lowers
  obtain ⟨clauses, found, items⟩ := shape.items
  have lowered : ∀ child rule, (child, rule) ∈ node.trueJoins →
      ∃ inner, child.lower = .ok inner ∧ child.compile = .ok inner.text := by
    intro child rule member
    obtain ⟨hc, joined⟩ := mem_trueJoins_iff.mp member
    exact (low.of_trueJoin hc joined).compile_eq compiled
  have joins := leftJoins_eq_trueJoins shape fun child rule inner member lowersChild => by
    obtain ⟨other, lowersOther, compilesChild⟩ := lowered child rule member
    rw [compiledText_eq compilesChild, Except.ok.inj (lowersChild.symm.trans lowersOther)]
  refine ⟨_, clauses, compiles, found, ?_, ?_⟩
  · intro join member
    obtain ⟨inner, _, compilesChild⟩ := lowered join.1 join.2 member
    rw [compiledText_eq compilesChild, compilesChild]
  · have fields : statement.items.map Sql.SelectItem.text =
        baseTexts node.columns ++ clauses.map fun clause => clause.item.text := by
      rw [items, List.map_append, List.map_map, List.map_map]
      rfl
    rw [Sql.Select.text_eq, fields, shape.table, joins, shape.filter, shape.groupsText_eq,
      Sql.Statement.joinsText_eq_join, List.map_map]
    cases node.filter <;> rfl

def blockedActivity : Query :=
  ((reading .statActivity ⟨"Activity", "pg_stat_activity", ["pid", "state"]⟩).withFilter
    "pid > 1").withChildren
      [selecting .blockingPids, selecting .locks,
        reading .statSsl ⟨"Ssl", "pg_stat_ssl", ["pid"]⟩]

def databaseActivity : Query :=
  (reading .statDatabase ⟨"Database", "pg_stat_database", ["datid"]⟩).withChild blockedActivity

theorem blockedActivity_compile :
    (∃ sql, databaseActivity.compile = .ok sql) ∧ Lowered databaseActivity blockedActivity ∧
      blockedActivity.compile = .ok (
        "SELECT pg_stat_activity.pid, pg_stat_activity.state, " ++
        "pg_blocking_pids(pg_stat_activity.pid) AS blocked_by, " ++
        "(CASE WHEN count(l) = 0 THEN '[]' ELSE json_agg(l) END) AS locks, " ++
        "(CASE WHEN count(ssl) = 0 THEN '[]' ELSE json_agg(ssl) END) AS ssl_usages " ++
        "FROM pg_stat_activity LEFT JOIN (SELECT pg_stat_ssl.pid FROM pg_stat_ssl) AS ssl " ++
        "ON ssl.pid = pg_stat_activity.pid WHERE pid > 1 " ++
        "GROUP BY pg_stat_activity.pid, pg_stat_activity.state") := by
  have low : Lowered databaseActivity blockedActivity :=
    .child .self List.mem_cons_self rfl (by decide)
  have compiled : ∃ sql, databaseActivity.compile = .ok sql := ⟨_, rfl⟩
  obtain ⟨sql, whole⟩ := compiled
  obtain ⟨text, clauses, compiles, found, _, shape⟩ := compile_lowered whole low
  refine ⟨⟨sql, whole⟩, low, ?_⟩
  have each : clauses = [.selectOnly JoinClause.blockedBy,
      .subquery (.rule .statActivity .locks "l" "locks" "pid" "pid"),
      .subquery (.rule .statActivity .statSsl "ssl" "ssl_usages" "pid" "pid")] := by
    rcases found with _ | ⟨⟨⟩, found⟩
    rcases found with _ | ⟨⟨⟩, found⟩
    rcases found with _ | ⟨⟨⟩, ⟨⟩⟩
    rfl
  rw [compiles, shape, each]
  decide +kernel

end Query

end StatTree
