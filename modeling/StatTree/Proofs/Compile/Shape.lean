import StatTree.Proofs.Compile.Acceptance

namespace StatTree

namespace Sql.Select

theorem joinedLevels_eq (joins : List (Joined Select)) :
    joinedLevels joins = joins.flatMap fun join => join.subquery.levels := by
  induction joins with
  | nil => rfl
  | cons join rest ih =>
    cases join
    rw [joinedLevels, joinLevels, ih, List.flatMap_cons]

theorem levels_eq (select : Select) :
    select.levels = select :: select.joins.flatMap fun join => join.subquery.levels := by
  cases select
  rw [levels, joinedLevels_eq]

theorem mem_levels_self (select : Select) : select ∈ select.levels := by
  rw [levels_eq]
  exact List.mem_cons_self

theorem leftJoin_eq (joined : Joined Select) :
    leftJoin joined = ⟨joined.subquery.text, joined.rule.asName, joined.rule.condition⟩ := by
  cases joined
  rfl

theorem text_eq (select : Select) :
    select.text = "SELECT " ++ Text.separated ", " (select.items.map SelectItem.text) ++
      " FROM " ++ select.table ++ Statement.joinsText (select.joins.map leftJoin) ++
      Statement.conditionText select.filter ++
      Statement.groupsText (select.groupBy.map Column.text) := by
  cases select
  rw [← Query.leftJoins_eq_map]
  rfl

end Sql.Select

namespace Query

def baseColumns (query : Query) : List Sql.Column :=
  (query.columns.map ColumnList.selects).getD []

def trueJoins (query : Query) : List (Query × JoinRule) :=
  query.children.filterMap fun child =>
    (trueJoin? query.target child).map fun rule => (child, rule)

structure IsLevel (node : Query) (level : Sql.Select) : Prop where
  items : ∃ clauses, List.Forall₂
      (fun child clause => JoinClause.find node.target child.target = .ok clause)
      node.children clauses ∧
    level.items = node.baseColumns.map .column ++ clauses.map JoinClause.item
  table : level.table = node.target.name
  joins : List.Forall₂
    (fun join joined => joined.rule = join.2 ∧ join.1.lower = .ok joined.subquery)
    node.trueJoins level.joins
  filter : level.filter = node.filter
  groupBy : level.groupBy = if level.joins.isEmpty then [] else node.baseColumns

theorem Lowered.eq_or_below {root node : Query} (low : Lowered root node) :
    node = root ∨ ∃ child ∈ root.children, child.selectOnly = false ∧
      (root.target, child.target) ≠ (.statActivity, .blockingPids) ∧ Lowered child node := by
  induction low with
  | self => exact .inl rfl
  | @child node child _ member only pair ih =>
    rcases ih with rfl | ⟨top, inRoot, onlyTop, pairTop, below⟩
    · exact .inr ⟨child, member, only, pair, .self⟩
    · exact .inr ⟨top, inRoot, onlyTop, pairTop, below.child member only pair⟩

theorem Lowered.mem_nodes {root node : Query} (low : Lowered root node) : node ∈ root.nodes :=
  mem_nodes_iff.mpr low.exists_at?

theorem Lowered.mem_nodes_of_child {root node child : Query} (low : Lowered root node)
    (member : child ∈ node.children) : child ∈ root.nodes := by
  obtain ⟨path, found⟩ := low.exists_at?
  obtain ⟨index, bound, rfl⟩ := List.getElem_of_mem member
  refine mem_nodes_iff.mpr ⟨path ++ [index], ?_⟩
  rw [at?_append, found, Option.bind_some, at?_cons, List.getElem?_eq_getElem bound]
  rfl

theorem mem_trueJoins_iff {node child : Query} {rule : JoinRule} :
    (child, rule) ∈ node.trueJoins ↔
      child ∈ node.children ∧ trueJoin? node.target child = some rule := by
  rw [trueJoins, List.mem_filterMap]
  constructor
  · intro found
    obtain ⟨other, member, pair⟩ := found
    obtain ⟨rule, joined, ⟨⟩⟩ := Option.map_eq_some_iff.mp pair
    exact ⟨member, joined⟩
  · intro found
    exact ⟨child, found.1, by rw [found.2]; rfl⟩

theorem trueJoin?_eq_some_iff {parent : Target} {child : Query} {rule : JoinRule} :
    trueJoin? parent child = some rule ↔
      child.selectOnly = false ∧ JoinRule.find? parent child.target = some rule := by
  rw [trueJoin?]
  cases child.selectOnly <;> simp

theorem exists_clauses {parent : Target} {children : List Query} {parts : List Contribution}
    (each : List.Forall₂ (fun child part => contribution parent child child.lower = .ok part)
      children parts) :
    ∃ clauses, List.Forall₂ (fun child clause => JoinClause.find parent child.target = .ok clause)
        children clauses ∧
      parts.map Contribution.item = clauses.map JoinClause.item := by
  induction each with
  | nil => exact ⟨[], .nil, rfl⟩
  | cons first _ ih =>
    obtain ⟨_, clause, found, item, _⟩ := contribution_eq_ok_iff.mp first
    obtain ⟨clauses, others, same⟩ := ih
    refine ⟨clause :: clauses, .cons found others, ?_⟩
    rw [List.map_cons, List.map_cons, item, same]

theorem forall₂_trueJoins {node : Query} {parts : List Contribution}
    (each : List.Forall₂ (fun child part => contribution node.target child child.lower = .ok part)
      node.children parts) :
    List.Forall₂ (fun join joined => joined.rule = join.2 ∧ join.1.lower = .ok joined.subquery)
      node.trueJoins (parts.filterMap Contribution.join) := by
  refine List.rel_filterMap (fun child part added => ?_) each
  obtain ⟨_, _, _, _, joined⟩ := contribution_eq_ok_iff.mp added
  cases rule : trueJoin? node.target child with
  | none =>
    rw [rule] at joined
    rw [joined]
    exact .none
  | some rule' =>
    rw [rule] at joined
    obtain ⟨subquery, lowers, join⟩ := joined
    rw [join]
    exact .some ⟨rfl, lowers⟩

theorem isLevel_of_lower {node : Query} {level : Sql.Select} (lowers : node.lower = .ok level) :
    IsLevel node level := by
  obtain ⟨_, parts, each, rfl⟩ := lower_eq_ok_iff.mp lowers
  obtain ⟨clauses, found, items⟩ := exists_clauses each
  refine ⟨⟨clauses, found, ?_⟩, rfl, forall₂_trueJoins each, rfl, rfl⟩
  rw [← items]
  rfl

theorem IsLevel.exists_trueJoin {node : Query} {level : Sql.Select} (shape : IsLevel node level)
    {joined : Sql.Joined Sql.Select} (member : joined ∈ level.joins) :
    ∃ child ∈ node.children, trueJoin? node.target child = some joined.rule ∧
      child.lower = .ok joined.subquery := by
  obtain ⟨⟨child, rule⟩, below, same, lowers⟩ := exists_mem_left_of_forall₂ shape.joins member
  obtain ⟨hc, found⟩ := mem_trueJoins_iff.mp below
  exact ⟨child, hc, by rw [found, same], lowers⟩

theorem IsLevel.exists_joined {node child : Query} {level : Sql.Select} {rule : JoinRule}
    (shape : IsLevel node level) (member : child ∈ node.children)
    (found : trueJoin? node.target child = some rule) :
    ∃ joined ∈ level.joins, joined.rule = rule ∧ child.lower = .ok joined.subquery :=
  exists_mem_right_of_forall₂ shape.joins (mem_trueJoins_iff.mpr ⟨member, found⟩)

theorem Lowered.exists_mem_levels {root node : Query} {statement : Sql.Select}
    (low : Lowered root node) (lowers : root.lower = .ok statement) :
    ∃ level ∈ statement.levels, node.lower = .ok level := by
  induction root using node_induction generalizing statement with
  | node root ih =>
    rcases low.eq_or_below with rfl | ⟨child, member, only, pair, below⟩
    · exact ⟨statement, statement.mem_levels_self, lowers⟩
    · obtain ⟨joinable, _⟩ := (exists_lower_step_iff.mp ⟨statement, lowers⟩).2 child member
      obtain ⟨rule, found⟩ := joinable.exists_trueJoin only pair
      obtain ⟨joined, inJoins, _, lowersChild⟩ :=
        (isLevel_of_lower lowers).exists_joined member found
      obtain ⟨level, inChild, inner⟩ := ih child member below lowersChild
      refine ⟨level, ?_, inner⟩
      rw [Sql.Select.levels_eq]
      exact List.mem_cons_of_mem _ (List.mem_flatMap.mpr ⟨joined, inJoins, inChild⟩)

theorem exists_lowered_of_mem_levels {root : Query} {statement level : Sql.Select}
    (lowers : root.lower = .ok statement) (member : level ∈ statement.levels) :
    ∃ node, Lowered root node ∧ node.lower = .ok level := by
  induction root using node_induction generalizing statement with
  | node root ih =>
    rw [Sql.Select.levels_eq, List.mem_cons] at member
    rcases member with rfl | member
    · exact ⟨root, .self, lowers⟩
    · obtain ⟨joined, inJoins, below⟩ := List.mem_flatMap.mp member
      obtain ⟨child, hc, found, lowersChild⟩ :=
        (isLevel_of_lower lowers).exists_trueJoin inJoins
      obtain ⟨node, low, inner⟩ := ih child hc lowersChild below
      exact ⟨node, (Lowered.self.of_trueJoin hc found).trans low, inner⟩

theorem select_eq_ok_iff {root : Query} {statement : Sql.Select} :
    root.select = .ok statement ↔ DistinctSignatures root ∧ root.lower = .ok statement := by
  rw [select, ← isRecursive_eq_false_iff]
  cases root.isRecursive <;> simp

theorem exists_select_of_compile {root : Query} {sql : String} (compiled : root.compile = .ok sql) :
    ∃ statement, root.select = .ok statement ∧ statement.text = sql ∧
      ∀ level ∈ statement.levels, ∃ node, Lowered root node ∧ node.select = .ok level := by
  obtain ⟨distinct, statement, lowers, text⟩ := compile_eq_ok_iff.mp compiled
  refine ⟨statement, select_eq_ok_iff.mpr ⟨distinct, lowers⟩, text, fun level member => ?_⟩
  obtain ⟨node, low, inner⟩ := exists_lowered_of_mem_levels lowers member
  obtain ⟨path, found⟩ := low.exists_at?
  exact ⟨node, low, select_eq_ok_iff.mpr ⟨distinct.below found, inner⟩⟩

end Query

end StatTree
