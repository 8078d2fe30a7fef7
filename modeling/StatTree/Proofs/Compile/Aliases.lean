import StatTree.Proofs.Compile.Shape
import StatTree.Proofs.JoinRule
import StatTree.Views

namespace StatTree

def Sql.Select.aliases (level : Select) : List String :=
  level.joins.map fun joined => joined.rule.asName

namespace Query

def joinedTargets (node : Query) : List Target := node.trueJoins.map fun join => join.1.target

theorem IsLevel.aliases_eq {node : Query} {level : Sql.Select} (shape : IsLevel node level) :
    level.aliases = node.trueJoins.map fun join => join.2.asName := by
  rw [Sql.Select.aliases, eq_comm, ← List.forall₂_eq_eq_eq, List.forall₂_map_left_iff,
    List.forall₂_map_right_iff]
  exact shape.joins.imp fun join joined found => by rw [found.1]

theorem asName_eq_iff_target_eq {node : Query} {first second : Query × JoinRule}
    (hf : first ∈ node.trueJoins) (hs : second ∈ node.trueJoins) :
    first.2.asName = second.2.asName ↔ first.1.target = second.1.target := by
  have foundFirst := (trueJoin?_eq_some_iff.mp (mem_trueJoins_iff.mp hf).2).2
  have foundSecond := (trueJoin?_eq_some_iff.mp (mem_trueJoins_iff.mp hs).2).2
  constructor
  · intro same
    obtain ⟨memberFirst, parentFirst, childFirst⟩ := JoinRule.find?_eq_some foundFirst
    obtain ⟨memberSecond, parentSecond, childSecond⟩ := JoinRule.find?_eq_some foundSecond
    rw [← childFirst, ← childSecond]
    exact JoinRule.child_eq_of_asName_eq _ memberFirst _ memberSecond
      (by rw [parentFirst, parentSecond]) same
  · intro same
    rw [same, foundSecond] at foundFirst
    rw [Option.some.inj foundFirst]

theorem IsLevel.nodup_aliases_iff {node : Query} {level : Sql.Select}
    (shape : IsLevel node level) : level.aliases.Nodup ↔ node.joinedTargets.Nodup := by
  rw [shape.aliases_eq, joinedTargets, List.Nodup, List.Nodup, List.pairwise_map, List.pairwise_map]
  exact List.Pairwise.iff_of_mem fun hf hs => not_congr (asName_eq_iff_target_eq hf hs)

/-- At every level of the statement of a tree that compiles, the aliases that the joins bind differ
    from one another exactly when the targets of the joined children do. -/
theorem nodup_aliases_iff_nodup_targets {root : Query} {sql : String}
    (compiled : root.compile = .ok sql) :
    ∃ statement, root.select = .ok statement ∧ statement.text = sql ∧
      ∀ level ∈ statement.levels, ∃ node, Lowered root node ∧ node.select = .ok level ∧
        (level.aliases.Nodup ↔ node.joinedTargets.Nodup) := by
  obtain ⟨statement, selects, text, levels⟩ := exists_select_of_compile compiled
  refine ⟨statement, selects, text, fun level member => ?_⟩
  obtain ⟨node, low, inner⟩ := levels level member
  exact ⟨node, low, inner, (isLevel_of_lower (select_eq_ok_iff.mp inner).2).nodup_aliases_iff⟩

def pairedLocksActivity : Query :=
  (View.statActivity.query .postgres13).withChildren
    [View.locks.query .postgres13, View.locksOnTxId.query .postgres13]

theorem pairedLocksActivity_aliases :
    ∃ sql statement, pairedLocksActivity.compile = .ok sql ∧
      pairedLocksActivity.select = .ok statement ∧
      ∀ level ∈ statement.levels, level.aliases.Nodup := by
  have targets : ∀ node ∈ pairedLocksActivity.nodes, node.joinedTargets.Nodup := by
    decide +kernel
  have compiled : ∃ sql, pairedLocksActivity.compile = .ok sql := ⟨_, rfl⟩
  obtain ⟨sql, compiled⟩ := compiled
  obtain ⟨statement, selects, _, levels⟩ := nodup_aliases_iff_nodup_targets compiled
  refine ⟨sql, statement, compiled, selects, fun level member => ?_⟩
  obtain ⟨node, low, _, same⟩ := levels level member
  exact same.mpr (targets node low.mem_nodes)

def twiceLockedActivity : Query :=
  (View.statActivity.query .postgres13).withChildren
    [View.locks.query .postgres13, (View.locks.query .postgres13).withFilter "granted"]

theorem twiceLockedActivity_aliases :
    ∃ statement, twiceLockedActivity.select = .ok statement ∧
      twiceLockedActivity.compile = .ok statement.text ∧
      statement ∈ statement.levels ∧ ¬statement.aliases.Nodup := by
  have distinct : twiceLockedActivity.isRecursive = false := by decide +kernel
  have lowers : ∃ statement, twiceLockedActivity.lower = .ok statement ∧
      statement.aliases = ["l", "l"] := ⟨_, rfl, rfl⟩
  obtain ⟨statement, lowers, aliases⟩ := lowers
  have selects : twiceLockedActivity.select = .ok statement := by
    rw [select, distinct, if_neg Bool.false_ne_true, lowers]
  refine ⟨statement, selects, ?_, ?_, ?_⟩
  · rw [compile_eq_select, selects]
    rfl
  · rw [Sql.Select.levels_eq]
    exact List.mem_cons_self
  · rw [aliases]
    decide

end Query

end StatTree
