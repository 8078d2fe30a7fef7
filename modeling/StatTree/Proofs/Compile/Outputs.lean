import Mathlib.Data.List.Nodup
import StatTree.Proofs.Compile.Resolution

namespace StatTree

theorem Target.nodup_of_columns {target : Target} {version : Version} :
    ∀ list ∈ target.columns version, list.columns.Nodup := by
  cases version <;> cases target <;> decide +kernel

namespace JoinRule

theorem child_eq_of_output_eq : ∀ first ∈ registry, ∀ second ∈ registry,
    first.parent = second.parent → first.output = second.output → first.child = second.child := by
  decide +kernel

/-- Only the conflicts of a database are gathered under the name of a base column. -/
theorem output_mem_columns_iff (version : Version) : ∀ rule ∈ registry,
    (∃ list ∈ rule.parent.columns version, rule.output ∈ list.columns) ↔
      rule.parent = .statDatabase ∧ rule.child = .statDatabaseConflicts := by
  cases version <;> decide +kernel

theorem output_ne_blockedBy : ∀ rule ∈ registry, rule.output ≠ JoinClause.blockedBy.output := by
  decide +kernel

end JoinRule

namespace JoinClause

theorem blockedBy_notMem_columns (version : Version) :
    ¬∃ list ∈ Target.columns .statActivity version, blockedBy.output ∈ list.columns := by
  cases version <;> decide +kernel

def Outputs (parent child : Target) (output : String) : Prop :=
  ∃ clause, find parent child = .ok clause ∧ clause.item.output = output

theorem Outputs.mem_columns_iff {parent child : Target} {output : String}
    (outputs : Outputs parent child output) (version : Version) :
    (∃ list ∈ parent.columns version, output ∈ list.columns) ↔
      parent = .statDatabase ∧ child = .statDatabaseConflicts := by
  obtain ⟨clause, found, rfl⟩ := outputs
  rcases find_eq_ok found with ⟨rule, rfl, lookup⟩ | ⟨rfl, rfl, rfl⟩
  · obtain ⟨inRegistry, rfl, rfl⟩ := JoinRule.find?_eq_some lookup
    exact JoinRule.output_mem_columns_iff version rule inRegistry
  · exact iff_of_false (blockedBy_notMem_columns version) nofun

theorem outputs_biUnique (parent : Target) : Relator.BiUnique (Outputs parent) := by
  constructor
  -- The lookup of blocking process ids is no rule, so that its name is compared with those of the
  -- rules apart.
  · intro first second output outputsFirst outputsSecond
    obtain ⟨clause, found, rfl⟩ := outputsFirst
    obtain ⟨other, foundOther, same⟩ := outputsSecond
    rcases find_eq_ok found with ⟨rule, rfl, lookup⟩ | ⟨rfl, rfl, rfl⟩
    · obtain ⟨inRegistry, parentFirst, rfl⟩ := JoinRule.find?_eq_some lookup
      rcases find_eq_ok foundOther with ⟨rule', rfl, lookup'⟩ | ⟨_, _, rfl⟩
      · obtain ⟨inRegistry', parentSecond, rfl⟩ := JoinRule.find?_eq_some lookup'
        have parents : rule.parent = rule'.parent := by rw [parentFirst, parentSecond]
        exact JoinRule.child_eq_of_output_eq rule inRegistry rule' inRegistry' parents same.symm
      · exact absurd same.symm (JoinRule.output_ne_blockedBy rule inRegistry)
    · rcases find_eq_ok foundOther with ⟨rule', rfl, lookup'⟩ | ⟨_, rfl, rfl⟩
      · obtain ⟨inRegistry', _⟩ := JoinRule.find?_eq_some lookup'
        exact absurd same (JoinRule.output_ne_blockedBy rule' inRegistry')
      · rfl
  · intro child first second outputsFirst outputsSecond
    obtain ⟨clause, found, rfl⟩ := outputsFirst
    obtain ⟨other, foundOther, rfl⟩ := outputsSecond
    rw [Except.ok.inj (found.symm.trans foundOther)]

end JoinClause

def Sql.Select.outputs (level : Select) : List String := level.items.map SelectItem.output

namespace Query

def baseNames (query : Query) : List String := query.baseColumns.map Sql.Column.name

theorem baseNames_eq (query : Query) :
    query.baseNames = (query.columns.map ColumnList.columns).getD [] := by
  rw [baseNames, baseColumns]
  cases query.columns with
  | none => rfl
  | some list => simp [ColumnList.selects, Function.comp_def]

theorem IsLevel.outputs_eq {node : Query} {level : Sql.Select} (shape : IsLevel node level) :
    ∃ outputs, List.Forall₂ (JoinClause.Outputs node.target) (node.children.map Query.target)
        outputs ∧
      level.outputs = node.baseNames ++ outputs := by
  obtain ⟨clauses, found, items⟩ := shape.items
  refine ⟨clauses.map fun clause => clause.item.output, ?_, ?_⟩
  · rw [List.forall₂_map_left_iff, List.forall₂_map_right_iff]
    exact found.imp fun child clause lookup => ⟨clause, lookup, rfl⟩
  · rw [Sql.Select.outputs, items, List.map_append, List.map_map, List.map_map, baseNames]
    rfl

theorem Standard.mem_baseNames_iff {version : Version} {node : Query}
    (standard : Standard version node) {name : String} :
    name ∈ node.baseNames ↔ ∃ list ∈ node.target.columns version, name ∈ list.columns := by
  rw [baseNames_eq, standard.columns]
  cases node.target.columns version <;> simp

theorem Standard.nodup_baseNames {version : Version} {node : Query}
    (standard : Standard version node) : node.baseNames.Nodup := by
  rw [baseNames_eq, standard.columns]
  cases found : node.target.columns version with
  | none => exact List.nodup_nil
  | some list => exact Target.nodup_of_columns list found

def JoinsConflicts (node : Query) : Prop :=
  node.target = .statDatabase ∧ .statDatabaseConflicts ∈ node.children.map Query.target

instance (node : Query) : Decidable node.JoinsConflicts := inferInstanceAs (Decidable (_ ∧ _))

theorem Standard.disjoint_baseNames_iff {version : Version} {node : Query}
    (standard : Standard version node) {outputs : List String}
    (each : List.Forall₂ (JoinClause.Outputs node.target) (node.children.map Query.target)
      outputs) : List.Disjoint node.baseNames outputs ↔ ¬node.JoinsConflicts := by
  constructor
  · intro apart conflicts
    obtain ⟨database, joined⟩ := conflicts
    obtain ⟨output, member, named⟩ := exists_mem_right_of_forall₂ each joined
    have base := (named.mem_columns_iff version).mpr ⟨database, rfl⟩
    exact apart (standard.mem_baseNames_iff.mpr base) member
  · intro other output base member
    obtain ⟨child, joined, named⟩ := exists_mem_left_of_forall₂ each member
    obtain ⟨database, rfl⟩ :=
      (named.mem_columns_iff version).mp (standard.mem_baseNames_iff.mp base)
    exact other ⟨database, joined⟩

theorem Standard.nodup_outputs_iff {version : Version} {node : Query} {level : Sql.Select}
    (standard : Standard version node) (shape : IsLevel node level) :
    level.outputs.Nodup ↔ (node.children.map Query.target).Nodup ∧ ¬node.JoinsConflicts := by
  obtain ⟨outputs, each, whole⟩ := shape.outputs_eq
  -- Targets and names are related one to one, so that one list repeats where the other does.
  have children : (node.children.map Query.target).Nodup ↔ outputs.Nodup :=
    List.rel_nodup (JoinClause.outputs_biUnique node.target) each
  rw [whole, List.nodup_append', and_iff_right standard.nodup_baseNames, ← children,
    standard.disjoint_baseNames_iff each]

/-- In the statement of a tree of ready-made views the columns of a level have different names
    exactly where the children of the level's node have different targets and are not the conflicts
    of a database. -/
theorem nodup_outputs_iff_of_assembled {version : Version} {root : Query} {sql : String}
    (assembled : Assembled version root) (compiled : root.compile = .ok sql) :
    ∃ statement, root.select = .ok statement ∧ statement.text = sql ∧
      ∀ level ∈ statement.levels, ∃ node outputs, Lowered root node ∧ node.select = .ok level ∧
        List.Forall₂ (JoinClause.Outputs node.target) (node.children.map Query.target) outputs ∧
        level.outputs = (node.columns.map ColumnList.columns).getD [] ++ outputs ∧
        (level.outputs.Nodup ↔
          (node.children.map Query.target).Nodup ∧ ¬node.JoinsConflicts) := by
  obtain ⟨statement, selects, text, levels⟩ := exists_select_of_compile compiled
  refine ⟨statement, selects, text, fun level member => ?_⟩
  obtain ⟨node, low, inner⟩ := levels level member
  have shape := isLevel_of_lower (select_eq_ok_iff.mp inner).2
  have standard := assembled.standard node low.mem_nodes
  obtain ⟨outputs, each, whole⟩ := shape.outputs_eq
  rw [baseNames_eq] at whole
  exact ⟨node, outputs, low, inner, each, whole, standard.nodup_outputs_iff shape⟩

def lockedDatabase : Query :=
  (View.statDatabase.query .postgres13).withChildren
    [View.locks.query .postgres13,
      (View.statActivity.query .postgres13).withChildren
        [View.statSsl.query .postgres13, View.statDatabaseConflicts.query .postgres13]]

theorem lockedDatabase_outputs :
    Assembled .postgres13 lockedDatabase ∧
      ∃ sql statement, lockedDatabase.compile = .ok sql ∧ lockedDatabase.select = .ok statement ∧
        ∀ level ∈ statement.levels, level.outputs.Nodup := by
  have assembled : Assembled .postgres13 lockedDatabase := by
    refine .withChildren (.view .statDatabase) (List.forall_mem_cons.mpr ⟨.view .locks, ?_⟩)
    refine List.forall_mem_singleton.mpr (.withChildren (.view .statActivity) ?_)
    exact List.forall_mem_cons.mpr ⟨.view .statSsl,
      List.forall_mem_singleton.mpr (.view .statDatabaseConflicts)⟩
  have apart : ∀ node ∈ lockedDatabase.nodes,
      (node.children.map Query.target).Nodup ∧ ¬node.JoinsConflicts := by
    decide +kernel
  have compiled : ∃ sql, lockedDatabase.compile = .ok sql := ⟨_, rfl⟩
  obtain ⟨sql, compiled⟩ := compiled
  obtain ⟨statement, selects, _, levels⟩ := nodup_outputs_iff_of_assembled assembled compiled
  refine ⟨assembled, sql, statement, compiled, selects, fun level member => ?_⟩
  obtain ⟨node, _, low, _, _, _, distinct⟩ := levels level member
  exact distinct.mpr (apart node low.mem_nodes)

def conflictedDatabase : Query :=
  (View.statDatabase.query .postgres13).withChild (View.statDatabaseConflicts.query .postgres13)

theorem conflictedDatabase_outputs :
    Assembled .postgres13 conflictedDatabase ∧
      (∀ node ∈ conflictedDatabase.nodes, (node.children.map Query.target).Nodup) ∧
      ∃ statement, conflictedDatabase.select = .ok statement ∧
        conflictedDatabase.compile = .ok statement.text ∧
        statement ∈ statement.levels ∧ ¬statement.outputs.Nodup := by
  have assembled : Assembled .postgres13 conflictedDatabase :=
    .withChildren (.view .statDatabase)
      (List.forall_mem_singleton.mpr (.view .statDatabaseConflicts))
  have compiled : ∃ sql, conflictedDatabase.compile = .ok sql := ⟨_, rfl⟩
  obtain ⟨sql, compiled⟩ := compiled
  obtain ⟨distinct, statement, lowers, rfl⟩ := compile_eq_ok_iff.mp compiled
  have standard := assembled.standard conflictedDatabase (mem_nodes_self _)
  refine ⟨assembled, by decide +kernel, statement, select_eq_ok_iff.mpr ⟨distinct, lowers⟩,
    compiled, statement.mem_levels_self, ?_⟩
  rw [standard.nodup_outputs_iff (isLevel_of_lower lowers)]
  decide

end Query

end StatTree
