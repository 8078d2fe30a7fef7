import StatTree.Proofs.Compile.Resolution
import StatTree.Proofs.Query.Reordered

namespace StatTree

def JoinClause.item? (parent child : Target) : Option Sql.SelectItem :=
  (find parent child).toOption.map item

theorem JoinClause.item?_of_find {parent child : Target} {clause : JoinClause}
    (found : find parent child = .ok clause) : item? parent child = some clause.item := by
  rw [item?, found]
  rfl

theorem JoinClause.base?_item_of_find {parent child : Target} {clause : JoinClause}
    (found : find parent child = .ok clause) : clause.item.base? = none := by
  rcases find_eq_ok found with ⟨rule, rfl, _⟩ | ⟨_, _, rfl⟩ <;> rfl

namespace Sql.Select

def addedItems (level : Select) : List SelectItem :=
  level.items.filter fun item => item.base?.isNone

/-- The second level is the first with the items and the joins that come from children in another
    order, and so are the levels that are joined, each under the rule it had. -/
inductive Reordered : Select → Select → Prop
  | level {a b : Select} {order : List (Joined Select)} (base : a.baseColumns = b.baseColumns)
    (added : a.addedItems.Perm b.addedItems) (table : a.table = b.table)
    (filter : a.filter = b.filter) (groupBy : a.groupBy = b.groupBy)
    (rules : a.joins.map Joined.rule = order.map Joined.rule)
    (subqueries : List.Forall₂ Reordered (a.joins.map Joined.subquery)
      (order.map Joined.subquery))
    (moved : order.Perm b.joins) : Reordered a b

end Sql.Select

namespace Query

theorem filterMap_item?_eq {parent : Target} {children : List Query} {clauses : List JoinClause}
    (found : List.Forall₂ (fun child clause => JoinClause.find parent child.target = .ok clause)
      children clauses) :
    (children.map Query.target).filterMap (JoinClause.item? parent) =
      clauses.map JoinClause.item := by
  induction found with
  | nil => rfl
  | cons first _ ih =>
    rw [List.map_cons, List.filterMap_cons_some (JoinClause.item?_of_find first), ih, List.map_cons]

theorem IsLevel.addedItems_eq {node : Query} {level : Sql.Select} (shape : IsLevel node level) :
    level.addedItems =
      (node.children.map Query.target).filterMap (JoinClause.item? node.target) := by
  obtain ⟨clauses, found, items⟩ := shape.items
  have base : (node.baseColumns.map Sql.SelectItem.column).filter
      (fun item => item.base?.isNone) = [] := by
    rw [List.filter_eq_nil_iff]
    intro item member
    obtain ⟨column, _, rfl⟩ := List.mem_map.mp member
    exact Bool.false_ne_true
  have added : (clauses.map JoinClause.item).filter (fun item => item.base?.isNone) =
      clauses.map JoinClause.item := by
    rw [List.filter_eq_self]
    intro item member
    obtain ⟨clause, inClauses, rfl⟩ := List.mem_map.mp member
    obtain ⟨child, _, clauseFound⟩ := exists_mem_left_of_forall₂ found inClauses
    rw [JoinClause.base?_item_of_find clauseFound]
    rfl
  rw [Sql.Select.addedItems, items, List.filter_append, base, added, List.nil_append,
    filterMap_item?_eq found]

theorem Reordered.target_eq {a b : Query} (same : Reordered a b) : a.target = b.target := by
  obtain ⟨target, _⟩ := same
  exact target

theorem Reordered.targets_perm {a b : Query} (same : Reordered a b) :
    (a.children.map Query.target).Perm (b.children.map Query.target) := by
  cases same with
  | @node _ _ order _ _ _ _ children moved =>
    have targets : a.children.map Query.target = order.map Query.target := by
      rw [← List.forall₂_eq_eq_eq, List.forall₂_map_left_iff, List.forall₂_map_right_iff]
      exact children.imp fun _ _ below => below.target_eq
    rw [targets]
    exact moved.map Query.target

theorem Reordered.trueJoin?_eq {a b : Query} (same : Reordered a b) (parent : Target) :
    trueJoin? parent a = trueJoin? parent b := by
  obtain ⟨target, _, selectOnly, _, _, _⟩ := same
  rw [trueJoin?, trueJoin?, target, selectOnly]

theorem Reordered.exists_lower {a b : Query} (same : Reordered a b)
    (lowers : ∃ statement, a.lower = .ok statement) : ∃ statement, b.lower = .ok statement := by
  induction a using node_induction generalizing b with
  | node a ih =>
    obtain ⟨valid, each⟩ := exists_lower_step_iff.mp lowers
    rw [same.isValid_eq] at valid
    refine exists_lower_step_iff.mpr ⟨valid, fun child member => ?_⟩
    obtain ⟨other, inFirst, below⟩ := same.exists_child member
    obtain ⟨joinable, lowersOther⟩ := each other inFirst
    rw [Joinable, same.target_eq, below.isValid_eq, below.target_eq] at joinable
    refine ⟨joinable, fun rule found => ?_⟩
    rw [← below.trueJoin?_eq, ← same.target_eq] at found
    exact ih other inFirst below (lowersOther rule found)

theorem Reordered.exists_trueJoins {a b : Query} (same : Reordered a b) :
    ∃ order, List.Forall₂ (fun join other => Reordered join.1 other.1 ∧ join.2 = other.2)
        a.trueJoins order ∧ order.Perm b.trueJoins := by
  cases same with
  | @node _ _ order target _ _ _ children moved =>
    let join := fun child : Query => (trueJoin? b.target child).map fun rule => (child, rule)
    refine ⟨order.filterMap join, ?_, moved.filterMap join⟩
    rw [trueJoins, target]
    refine List.rel_filterMap (fun child other below => ?_) children
    change Option.Rel _ _ ((trueJoin? b.target other).map fun rule => (other, rule))
    rw [below.trueJoin?_eq]
    cases trueJoin? b.target other with
    | none => exact .none
    | some rule => exact .some ⟨below, rfl⟩

theorem Reordered.exists_joins {a b : Query} {levelA levelB : Sql.Select} (same : Reordered a b)
    (shapeA : IsLevel a levelA) (shapeB : IsLevel b levelB)
    (trees : ∀ child ∈ a.children, ∀ other, Reordered child other → ∀ inner outer,
      child.lower = .ok inner → other.lower = .ok outer → inner.Reordered outer) :
    ∃ order, List.Forall₂ (fun joined other => joined.rule = other.rule ∧
        joined.subquery.Reordered other.subquery) levelA.joins order ∧
      order.Perm levelB.joins := by
  obtain ⟨trueJoins, each, moved⟩ := same.exists_trueJoins
  obtain ⟨order, joins, moved⟩ := List.perm_comp_forall₂ moved shapeB.joins
  -- Along the lists: join of the first level, its node, the node's counterpart, that one's join.
  have whole := forall₂_comp (forall₂_comp (mem_and_mem_of_forall₂ shapeA.joins).flip each) joins
  refine ⟨order, whole.imp fun joined other found => ?_, moved⟩
  obtain ⟨counterpart, ⟨own, ⟨inNode, _, sameA, lowers⟩, below, rules⟩, sameB, lowersOther⟩ := found
  refine ⟨sameA.trans (rules.trans sameB.symm), ?_⟩
  exact trees own.1 (mem_trueJoins_iff.mp inNode).1 counterpart.1 below _ _ lowers lowersOther

theorem Reordered.level {a b : Query} {levelA levelB : Sql.Select} (same : Reordered a b)
    (lowersA : a.lower = .ok levelA) (lowersB : b.lower = .ok levelB) :
    levelA.Reordered levelB := by
  induction a using node_induction generalizing b levelA levelB with
  | node a ih =>
    have shapeA := isLevel_of_lower lowersA
    have shapeB := isLevel_of_lower lowersB
    obtain ⟨order, joins, moved⟩ := same.exists_joins shapeA shapeB
      fun child member _ below _ _ lowers lowersOther => ih child member below lowers lowersOther
    have base : a.baseColumns = b.baseColumns := by
      obtain ⟨_, columns, _⟩ := same
      rw [baseColumns, baseColumns, columns]
    have filter : a.filter = b.filter := by
      obtain ⟨_, _, _, filter, _⟩ := same
      exact filter
    have added : levelA.addedItems.Perm levelB.addedItems := by
      rw [shapeA.addedItems_eq, shapeB.addedItems_eq, same.target_eq]
      exact same.targets_perm.filterMap _
    have empty : levelA.joins.isEmpty = levelB.joins.isEmpty := by
      rw [Bool.eq_iff_iff, List.isEmpty_iff_length_eq_zero, List.isEmpty_iff_length_eq_zero,
        joins.length_eq, moved.length_eq]
    refine .level ?_ added ?_ ?_ ?_ ?_ ?_ moved
    · rw [shapeA.baseColumns_eq, shapeB.baseColumns_eq, base]
    · rw [shapeA.table, shapeB.table, same.target_eq]
    · rw [shapeA.filter, shapeB.filter, filter]
    · rw [shapeA.groupBy, shapeB.groupBy, empty, base]
    · rw [← List.forall₂_eq_eq_eq, List.forall₂_map_left_iff, List.forall₂_map_right_iff]
      exact joins.imp fun _ _ found => found.1
    · rw [List.forall₂_map_left_iff, List.forall₂_map_right_iff]
      exact joins.imp fun _ _ found => found.2

theorem Reordered.exists_compile {a b : Query} (same : Reordered a b) (readable : Readable a)
    (compiles : ∃ sql, a.compile = .ok sql) : ∃ sql, b.compile = .ok sql := by
  obtain ⟨sql, compiled⟩ := compiles
  obtain ⟨distinct, statement, lowers, _⟩ := compile_eq_ok_iff.mp compiled
  obtain ⟨other, lowersOther⟩ := same.exists_lower ⟨statement, lowers⟩
  have distinctOther : DistinctSignatures b := by
    rw [← isRecursive_eq_false_iff, ← same.isRecursive_eq readable, isRecursive_eq_false_iff]
    exact distinct
  exact ⟨_, compile_eq_ok_iff.mpr ⟨distinctOther, other, lowersOther, rfl⟩⟩

/-- A tree compiles exactly when it does with its children in another order, at any of its nodes.
    The levels of the two statements then differ in the order of items and joins only. -/
theorem compile_iff_of_reordered {a b : Query} (built : Built a) (plain : PlainNames a)
    (same : Reordered a b) :
    ((∃ sql, a.compile = .ok sql) ↔ ∃ sql, b.compile = .ok sql) ∧
      ∀ sqlA sqlB, a.compile = .ok sqlA → b.compile = .ok sqlB →
        ∃ levelA levelB, a.select = .ok levelA ∧ levelA.text = sqlA ∧
          b.select = .ok levelB ∧ levelB.text = sqlB ∧ levelA.Reordered levelB := by
  have readable := built.readable plain
  constructor
  · exact ⟨same.exists_compile readable, same.symm.exists_compile (same.readable readable)⟩
  · intro sqlA sqlB compiledA compiledB
    obtain ⟨distinctA, levelA, lowersA, textA⟩ := compile_eq_ok_iff.mp compiledA
    obtain ⟨distinctB, levelB, lowersB, textB⟩ := compile_eq_ok_iff.mp compiledB
    exact ⟨levelA, levelB, select_eq_ok_iff.mpr ⟨distinctA, lowersA⟩, textA,
      select_eq_ok_iff.mpr ⟨distinctB, lowersB⟩, textB, same.level lowersA lowersB⟩

def arrangedDatabase (order : List Query → List Query) : Query :=
  (View.statDatabase.query .postgres13).withChildren <| order
    [(View.statActivity.query .postgres13).withChildren <| order
        [View.locks.query .postgres13, View.statSsl.query .postgres13],
      (View.locks.query .postgres13).withFilter "granted"]

theorem arrangedDatabase_compile :
    Built (arrangedDatabase id) ∧ PlainNames (arrangedDatabase id) ∧
      Reordered (arrangedDatabase id) (arrangedDatabase List.reverse) ∧
      ∃ sqlA sqlB, (arrangedDatabase id).compile = .ok sqlA ∧
        (arrangedDatabase List.reverse).compile = .ok sqlB ∧
        ∃ levelA levelB, (arrangedDatabase id).select = .ok levelA ∧ levelA.text = sqlA ∧
          (arrangedDatabase List.reverse).select = .ok levelB ∧ levelB.text = sqlB ∧
          levelA.Reordered levelB := by
  have built : Built (arrangedDatabase id) := by
    refine .withChildren (.reading _ _) (List.forall_mem_cons.mpr ⟨?_, ?_⟩)
    · refine .withChildren (.reading _ _) (List.forall_mem_cons.mpr ⟨.reading _ _, ?_⟩)
      exact List.forall_mem_singleton.mpr (.reading _ _)
    · exact List.forall_mem_singleton.mpr (.withFilter _ (.reading _ _))
  have plain : PlainNames (arrangedDatabase id) := by decide
  have swapped : ∀ x y : Query, [x, y].Perm [y, x] := fun x y => .swap y x []
  have same : Reordered (arrangedDatabase id) (arrangedDatabase List.reverse) := by
    refine .node rfl rfl rfl rfl (.cons ?_ (.cons (.refl _) .nil)) (swapped _ _)
    exact .node rfl rfl rfl rfl (.cons (.refl _) (.cons (.refl _) .nil)) (swapped _ _)
  obtain ⟨accepted, levels⟩ := compile_iff_of_reordered built plain same
  have compiled : ∃ sql, (arrangedDatabase id).compile = .ok sql := ⟨_, rfl⟩
  obtain ⟨sqlB, compiledB⟩ := accepted.mp compiled
  obtain ⟨sqlA, compiledA⟩ := compiled
  exact ⟨built, plain, same, sqlA, sqlB, compiledA, compiledB,
    levels sqlA sqlB compiledA compiledB⟩

end Query

end StatTree
