import StatTree.Proofs.Compile.Shape
import StatTree.Views

namespace StatTree

namespace Sql

theorem Statement.joinsText_eq_empty_iff {joins : List LeftJoin} :
    joinsText joins = "" ↔ joins = [] := by
  cases joins with
  | nil => exact iff_of_true rfl rfl
  | cons join rest =>
    have blank : " " ≠ "" := by decide
    refine iff_of_false (fun empty => ?_) (List.cons_ne_nil _ _)
    rw [joinsText, String.append_eq_empty_iff, String.append_eq_empty_iff] at empty
    exact blank empty.1.1

theorem Statement.groupsText_eq_empty_iff {fields : List String} :
    groupsText fields = "" ↔ fields = [] := by
  cases fields with
  | nil => exact iff_of_true rfl rfl
  | cons field rest =>
    have opening : " GROUP BY " ≠ "" := by decide
    refine iff_of_false (fun empty => ?_) (List.cons_ne_nil _ _)
    rw [groupsText, String.append_eq_empty_iff] at empty
    · exact opening empty.1
    · exact nofun

namespace Select

def joinsText (level : Select) : String := Statement.joinsText level.statement.joins

def groupsText (level : Select) : String := Statement.groupsText level.statement.groups

theorem joinsText_ne_empty_iff {level : Select} : level.joinsText ≠ "" ↔ level.joins ≠ [] := by
  cases level with
  | mk items table joins filter groupBy =>
    refine not_congr (Statement.joinsText_eq_empty_iff.trans ?_)
    change leftJoins joins = [] ↔ joins = []
    rw [Query.leftJoins_eq_map, List.map_eq_nil_iff]

theorem groupsText_ne_empty_iff {level : Select} : level.groupsText ≠ "" ↔ level.groupBy ≠ [] := by
  cases level with
  | mk items table joins filter groupBy =>
    refine not_congr (Statement.groupsText_eq_empty_iff.trans ?_)
    exact List.map_eq_nil_iff

end Select

end Sql

namespace Query

theorem IsLevel.joins_ne_nil_iff {node : Query} {level : Sql.Select} (shape : IsLevel node level) :
    level.joins ≠ [] ↔ ∃ child ∈ node.children, child.selectOnly = false ∧
      ∃ rule, JoinClause.find node.target child.target = .ok (.subquery rule) := by
  constructor
  · intro joins
    obtain ⟨joined, member⟩ := List.exists_mem_of_ne_nil _ joins
    obtain ⟨child, hc, found, _⟩ := shape.exists_trueJoin member
    obtain ⟨only, lookup⟩ := trueJoin?_eq_some_iff.mp found
    exact ⟨child, hc, only, joined.rule, JoinClause.find_eq_subquery_iff.mpr lookup⟩
  · intro joins
    obtain ⟨child, hc, only, rule, clause⟩ := joins
    have found : trueJoin? node.target child = some rule :=
      trueJoin?_eq_some_iff.mpr ⟨only, JoinClause.find_eq_subquery_iff.mp clause⟩
    obtain ⟨joined, member, _⟩ := shape.exists_joined hc found
    exact List.ne_nil_of_mem member

theorem IsLevel.groupBy_ne_nil_iff {node : Query} {level : Sql.Select}
    (shape : IsLevel node level) :
    level.groupBy ≠ [] ↔ level.joins ≠ [] ∧ node.baseColumns ≠ [] := by
  rw [shape.groupBy]
  cases level.joins with
  | nil => simp
  | cons joined rest => simp

/-- Every lowered node of a tree that compiles has its level in the statement, which is grouped
    exactly where it joins something and the node has base columns. -/
theorem groupsText_ne_empty_iff_joined {root : Query} {sql : String}
    (compiled : root.compile = .ok sql) :
    ∃ statement, root.select = .ok statement ∧ statement.text = sql ∧
      ∀ node, Lowered root node → ∃ level ∈ statement.levels, node.select = .ok level ∧
        (level.joinsText ≠ "" ↔ ∃ child ∈ node.children, child.selectOnly = false ∧
          ∃ rule, JoinClause.find node.target child.target = .ok (.subquery rule)) ∧
        (level.groupsText ≠ "" ↔ level.joinsText ≠ "" ∧ node.baseColumns ≠ []) := by
  obtain ⟨distinct, statement, lowers, text⟩ := compile_eq_ok_iff.mp compiled
  refine ⟨statement, select_eq_ok_iff.mpr ⟨distinct, lowers⟩, text, fun node low => ?_⟩
  obtain ⟨level, member, inner⟩ := low.exists_mem_levels lowers
  obtain ⟨path, found⟩ := low.exists_at?
  have shape := isLevel_of_lower inner
  refine ⟨level, member, select_eq_ok_iff.mpr ⟨distinct.below found, inner⟩, ?_, ?_⟩
  · rw [Sql.Select.joinsText_ne_empty_iff, shape.joins_ne_nil_iff]
  · rw [Sql.Select.joinsText_ne_empty_iff, Sql.Select.groupsText_ne_empty_iff,
      shape.groupBy_ne_nil_iff]

def heldActivity : Query :=
  (View.statActivity.query .postgres13).withChildren
    [blockingPids, View.locks.query .postgres13]

def heldDatabase : Query := (View.statDatabase.query .postgres13).withChild heldActivity

theorem heldDatabase_grouped :
    ∃ sql, heldDatabase.compile = .ok sql ∧
      ∃ statement : Sql.Select, statement.text = sql ∧
        (∃ level ∈ statement.levels, heldActivity.select = .ok level ∧ level.groupsText ≠ "") ∧
        ∃ level ∈ statement.levels,
          (View.locks.query .postgres13).select = .ok level ∧ level.groupsText = "" := by
  have compiled : ∃ sql, heldDatabase.compile = .ok sql := ⟨_, rfl⟩
  obtain ⟨sql, compiled⟩ := compiled
  obtain ⟨statement, _, text, levels⟩ := groupsText_ne_empty_iff_joined compiled
  have low : Lowered heldDatabase heldActivity := .child .self List.mem_cons_self rfl (by decide)
  have lowLocks : Lowered heldDatabase (View.locks.query .postgres13) :=
    low.child (List.mem_cons_of_mem _ List.mem_cons_self) rfl (by decide)
  refine ⟨sql, compiled, statement, text, ?_, ?_⟩
  · obtain ⟨level, member, selects, joined, grouped⟩ := levels _ low
    refine ⟨level, member, selects, grouped.mpr ⟨joined.mpr ?_, List.cons_ne_nil _ _⟩⟩
    exact ⟨_, List.mem_cons_of_mem _ List.mem_cons_self, rfl, _, rfl⟩
  · obtain ⟨level, member, selects, joined, grouped⟩ := levels _ lowLocks
    refine ⟨level, member, selects, ?_⟩
    by_contra groups
    obtain ⟨child, below, _⟩ := joined.mp (grouped.mp groups).1
    exact absurd below List.not_mem_nil

def pooledLocks : Query := (selecting .statActivity).withChild (View.locks.query .postgres13)

theorem pooledLocks_ungrouped :
    ∃ statement, pooledLocks.select = .ok statement ∧
      pooledLocks.compile = .ok statement.text ∧ Lowered pooledLocks pooledLocks ∧
      statement.joinsText ≠ "" ∧ statement.groupsText = "" := by
  have compiled : ∃ sql, pooledLocks.compile = .ok sql := ⟨_, rfl⟩
  obtain ⟨sql, compiled⟩ := compiled
  obtain ⟨distinct, statement, lowers, rfl⟩ := compile_eq_ok_iff.mp compiled
  have shape := isLevel_of_lower lowers
  refine ⟨statement, select_eq_ok_iff.mpr ⟨distinct, lowers⟩, compiled, .self, ?_, ?_⟩
  · rw [Sql.Select.joinsText_ne_empty_iff, shape.joins_ne_nil_iff]
    exact ⟨_, List.mem_cons_self, rfl, _, rfl⟩
  · by_contra groups
    obtain ⟨_, base⟩ := shape.groupBy_ne_nil_iff.mp (Sql.Select.groupsText_ne_empty_iff.mp groups)
    exact base rfl

end Query

end StatTree
