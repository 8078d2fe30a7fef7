import StatTree.Proofs.Compile.Shape
import StatTree.Proofs.JoinRule
import StatTree.Proofs.Views.Assembled

namespace StatTree

namespace Sql

def SelectItem.base? : SelectItem → Option Column
  | .column source => some source
  | _ => none

def SelectItem.bare? : SelectItem → Option Column
  | .column source => some source
  | .array _ _ => none
  | .call _ argument _ => some argument

namespace Select

def baseColumns (level : Select) : List Column := level.items.filterMap SelectItem.base?

/-- The names of a level stand for what the level, or a subquery that it joins, has in the given
    generation. -/
structure Resolves (version : Version) (level : Select) : Prop where
  selected : ∀ column ∈ level.baseColumns, column.relation = level.table
  grouped : ∀ column ∈ level.groupBy, column.relation = level.table
  joined : ∀ join ∈ level.joins, ∃ left right,
    join.rule.condition =
      join.rule.asName ++ "." ++ left ++ " = " ++ level.table ++ "." ++ right ∧
    ⟨join.subquery.table, left⟩ ∈ join.subquery.baseColumns ∧
    ∃ view : View, ∃ list, view.target.name = level.table ∧ view.columns version = some list ∧
      right ∈ list.columns
  aggregated : ∀ asName output, .array asName output ∈ level.items →
    ∃ join ∈ level.joins, join.rule.asName = asName
  outside : level.joins ≠ [] ∨ level.groupBy ≠ [] →
    ∀ item ∈ level.items, ∀ column ∈ item.bare?, column ∈ level.groupBy

end Select

end Sql

theorem JoinRule.condition_eq (rule : JoinRule) :
    rule.condition = rule.asName ++ "." ++ rule.childColumn ++ " = " ++ rule.parent.name ++ "." ++
      rule.parentColumn := by
  simp only [condition, left, right, Sql.Column.text, String.append_assoc]

theorem JoinClause.find_eq_ok {parent child : Target} {clause : JoinClause}
    (found : find parent child = .ok clause) :
    (∃ rule, clause = .subquery rule ∧ JoinRule.find? parent child = some rule) ∨
      (parent = .statActivity ∧ child = .blockingPids ∧ clause = .selectOnly blockedBy) := by
  cases clause with
  | subquery rule => exact .inl ⟨rule, rfl, find_eq_subquery_iff.mp found⟩
  | selectOnly item =>
    rw [find] at found
    split at found
    · obtain ⟨activity, pids⟩ := ‹_ ∧ _›
      cases found
      exact .inr ⟨activity, pids, rfl⟩
    · split at found <;> cases found

namespace Query

theorem IsLevel.mem_items {node : Query} {level : Sql.Select} (shape : IsLevel node level)
    {item : Sql.SelectItem} (member : item ∈ level.items) :
    (∃ column ∈ node.baseColumns, item = .column column) ∨
      (∃ child ∈ node.children, ∃ rule, JoinRule.find? node.target child.target = some rule ∧
        item = rule.item) ∨
      (node.target = .statActivity ∧ item = JoinClause.blockedBy) := by
  obtain ⟨clauses, found, items⟩ := shape.items
  rw [items, List.mem_append] at member
  rcases member with member | member
  · obtain ⟨column, inBase, rfl⟩ := List.mem_map.mp member
    exact .inl ⟨column, inBase, rfl⟩
  · obtain ⟨clause, inClauses, rfl⟩ := List.mem_map.mp member
    obtain ⟨child, hc, clauseFound⟩ := exists_mem_left_of_forall₂ found inClauses
    rcases JoinClause.find_eq_ok clauseFound with ⟨rule, rfl, lookup⟩ | ⟨activity, _, rfl⟩
    · exact .inr (.inl ⟨child, hc, rule, lookup, rfl⟩)
    · exact .inr (.inr ⟨activity, rfl⟩)

theorem IsLevel.baseColumns_eq {node : Query} {level : Sql.Select} (shape : IsLevel node level) :
    level.baseColumns = node.baseColumns := by
  obtain ⟨clauses, found, items⟩ := shape.items
  have absent : ∀ clause ∈ clauses, clause.item.base? = none := by
    intro clause member
    obtain ⟨child, _, clauseFound⟩ := exists_mem_left_of_forall₂ found member
    rcases JoinClause.find_eq_ok clauseFound with ⟨rule, rfl, _⟩ | ⟨_, _, rfl⟩ <;> rfl
  have rest : (clauses.map JoinClause.item).filterMap Sql.SelectItem.base? = [] := by
    rw [List.filterMap_map, List.filterMap_eq_nil_iff]
    exact absent
  have base : (node.baseColumns.map Sql.SelectItem.column).filterMap Sql.SelectItem.base? =
      node.baseColumns := by
    rw [List.filterMap_map]
    exact List.filterMap_some
  rw [Sql.Select.baseColumns, items, List.filterMap_append, base, rest, List.append_nil]

theorem mem_baseColumns_iff {node : Query} {column : Sql.Column} :
    column ∈ node.baseColumns ↔ ∃ list, node.columns = some list ∧ column ∈ list.selects := by
  rw [baseColumns]
  cases node.columns <;> simp

theorem Standard.relation_eq {version : Version} {node : Query} (standard : Standard version node)
    {column : Sql.Column} (member : column ∈ node.baseColumns) :
    column.relation = node.target.name := by
  obtain ⟨list, found, inList⟩ := mem_baseColumns_iff.mp member
  obtain ⟨name, _, rfl⟩ := List.mem_map.mp inList
  exact Target.relation_of_columns list (standard.columns.symm.trans found)

theorem Standard.exists_columns {version : Version} {node : Query}
    (standard : Standard version node) (valid : node.isValid = true)
    (other : node.target ≠ .blockingPids) :
    ∃ list, node.columns = some list ∧ node.target.columns version = some list := by
  rw [isValid, standard.selectOnly_eq_false other, Bool.false_or, Bool.and_eq_true] at valid
  obtain ⟨list, found⟩ := Option.isSome_iff_exists.mp valid.2
  exact ⟨list, found, standard.columns.symm.trans found⟩

theorem Standard.trueJoin?_eq {version : Version} {child : Query}
    (standard : Standard version child) (parent : Target) :
    trueJoin? parent child = JoinRule.find? parent child.target := by
  cases lookup : JoinRule.find? parent child.target with
  | none =>
    rw [trueJoin?, lookup]
    split <;> rfl
  | some rule =>
    obtain ⟨inRegistry, _, target⟩ := JoinRule.find?_eq_some lookup
    have other := (JoinRule.ne_blockingPids_of_mem_registry rule inRegistry).2
    rw [target] at other
    exact trueJoin?_eq_some_iff.mpr ⟨standard.selectOnly_eq_false other, lookup⟩

theorem condition_resolves {version : Version} {node : Query} {level : Sql.Select}
    (lowers : node.lower = .ok level) (standard : Standard version node)
    (below : ∀ child ∈ node.children, Standard version child)
    {joined : Sql.Joined Sql.Select} (member : joined ∈ level.joins) :
    ∃ left right, joined.rule.condition =
        joined.rule.asName ++ "." ++ left ++ " = " ++ level.table ++ "." ++ right ∧
      ⟨joined.subquery.table, left⟩ ∈ joined.subquery.baseColumns ∧
      ∃ view : View, ∃ list, view.target.name = level.table ∧
        view.columns version = some list ∧ right ∈ list.columns := by
  have shape := isLevel_of_lower lowers
  obtain ⟨child, hc, found, lowersChild⟩ := shape.exists_trueJoin member
  obtain ⟨_, lookup⟩ := trueJoin?_eq_some_iff.mp found
  obtain ⟨inRegistry, parent, target⟩ := JoinRule.find?_eq_some lookup
  obtain ⟨otherParent, otherChild⟩ := JoinRule.ne_blockingPids_of_mem_registry _ inRegistry
  obtain ⟨childHas, parentHas⟩ := JoinRule.columns_of_mem_registry version _ inRegistry
  rw [parent] at otherParent parentHas
  rw [target] at otherChild childHas
  obtain ⟨own, _, ownColumns⟩ := standard.exists_columns (lower_eq_ok_iff.mp lowers).1 otherParent
  obtain ⟨list, columns, listColumns⟩ :=
    (below child hc).exists_columns (lower_eq_ok_iff.mp lowersChild).1 otherChild
  refine ⟨joined.rule.childColumn, joined.rule.parentColumn, ?_, ?_, ?_⟩
  · rw [JoinRule.condition_eq, shape.table, parent]
  · have shapeChild := isLevel_of_lower lowersChild
    rw [shapeChild.baseColumns_eq, shapeChild.table, mem_baseColumns_iff]
    refine ⟨list, columns, List.mem_map.mpr ⟨_, childHas list listColumns, ?_⟩⟩
    rw [Target.relation_of_columns list listColumns]
  · obtain ⟨view, same, viewColumns⟩ := Target.exists_view_of_columns ownColumns
    exact ⟨view, own, by rw [same, shape.table], viewColumns, parentHas own ownColumns⟩

theorem aggregate_resolves {version : Version} {node : Query} {level : Sql.Select}
    (lowers : node.lower = .ok level) (below : ∀ child ∈ node.children, Standard version child)
    {asName output : String} (member : .array asName output ∈ level.items) :
    ∃ joined ∈ level.joins, joined.rule.asName = asName := by
  have shape := isLevel_of_lower lowers
  rcases shape.mem_items member with ⟨_, _, ⟨⟩⟩ | ⟨child, hc, rule, lookup, same⟩ | ⟨_, ⟨⟩⟩
  have inJoins := mem_trueJoins_iff.mpr ⟨hc, ((below child hc).trueJoin?_eq _).trans lookup⟩
  obtain ⟨joined, inLevel, sameRule, _⟩ := exists_mem_right_of_forall₂ shape.joins inJoins
  refine ⟨joined, inLevel, ?_⟩
  rw [sameRule]
  cases same
  rfl

theorem bare_mem_baseColumns {version : Version} {node : Query} {level : Sql.Select}
    (shape : IsLevel node level) (standard : Standard version node) (valid : node.isValid = true)
    {item : Sql.SelectItem} (member : item ∈ level.items) {column : Sql.Column}
    (used : column ∈ item.bare?) : column ∈ node.baseColumns := by
  rcases shape.mem_items member with ⟨other, inBase, rfl⟩ | ⟨_, _, rule, _, rfl⟩ | ⟨activity, rfl⟩
  · cases used
    exact inBase
  · cases used
  · cases used
    obtain ⟨list, columns, listColumns⟩ :=
      standard.exists_columns valid (by rw [activity]; exact nofun)
    rw [activity] at listColumns
    refine mem_baseColumns_iff.mpr ⟨list, columns, List.mem_map.mpr ⟨"pid", ?_, ?_⟩⟩
    · exact Target.pid_mem_columns_statActivity version list listColumns
    · rw [Target.relation_of_columns list listColumns]

theorem resolves_of_lower {version : Version} {node : Query} {level : Sql.Select}
    (lowers : node.lower = .ok level) (standard : Standard version node)
    (below : ∀ child ∈ node.children, Standard version child) : level.Resolves version := by
  have shape := isLevel_of_lower lowers
  have valid := (lower_eq_ok_iff.mp lowers).1
  have grouped : level.groupBy = if level.joins.isEmpty then [] else node.baseColumns :=
    shape.groupBy
  refine ⟨?_, ?_, fun _ => condition_resolves lowers standard below,
    fun _ _ => aggregate_resolves lowers below, ?_⟩
  · intro column member
    rw [shape.baseColumns_eq] at member
    rw [standard.relation_eq member, shape.table]
  · intro column member
    rw [grouped] at member
    split at member
    · cases member
    · rw [standard.relation_eq member, shape.table]
  -- A level is grouped only where it joins something.
  · intro isGrouped item member column used
    have joins : level.joins.isEmpty = false := by
      rw [List.isEmpty_eq_false_iff]
      intro absent
      rcases isGrouped with joins | groups
      · exact joins absent
      · exact groups (by rw [grouped, absent]; rfl)
    rw [grouped, joins, if_neg Bool.false_ne_true]
    exact bare_mem_baseColumns shape standard valid member used

/-- In the statement of a tree of ready-made views every name is that of something which the level,
    or a subquery that it joins, has in the views' generation. -/
theorem resolves_of_assembled {version : Version} {root : Query} {sql : String}
    (assembled : Assembled version root) (compiled : root.compile = .ok sql) :
    ∃ statement, root.select = .ok statement ∧ statement.text = sql ∧
      ∀ level ∈ statement.levels, level.Resolves version := by
  obtain ⟨statement, selects, text, levels⟩ := exists_select_of_compile compiled
  refine ⟨statement, selects, text, fun level member => ?_⟩
  obtain ⟨node, low, inner⟩ := levels level member
  have standard := assembled.standard
  refine resolves_of_lower (select_eq_ok_iff.mp inner).2 (standard node low.mem_nodes) ?_
  intro child hc
  exact standard child (low.mem_nodes_of_child hc)

def databaseSurvey (version : Version) : Query :=
  (View.statDatabase.query version).withChild
    (((View.statActivity.query version).withFilter "state = 'active'").withChildren
      [View.locks.query version, blockingPids])

theorem databaseSurvey_resolves :
    Assembled .postgres9 (databaseSurvey .postgres9) ∧
      ∃ sql statement, (databaseSurvey .postgres9).compile = .ok sql ∧
        (databaseSurvey .postgres9).select = .ok statement ∧ statement.text = sql ∧
        ∀ level ∈ statement.levels, level.Resolves .postgres9 := by
  have assembled : Assembled .postgres9 (databaseSurvey .postgres9) := by
    refine .withChildren (.view .statDatabase) (List.forall_mem_singleton.mpr ?_)
    refine .withChildren (.withFilter _ (.view .statActivity)) (List.forall_mem_cons.mpr ?_)
    exact ⟨.view .locks, List.forall_mem_singleton.mpr .blockingPids⟩
  have compiled : ∃ sql, (databaseSurvey .postgres9).compile = .ok sql := ⟨_, rfl⟩
  obtain ⟨sql, compiled⟩ := compiled
  obtain ⟨statement, selects, text, resolves⟩ := resolves_of_assembled assembled compiled
  exact ⟨assembled, sql, statement, compiled, selects, text, resolves⟩

end Query

end StatTree
