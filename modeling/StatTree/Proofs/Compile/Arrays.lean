import StatTree.Proofs.Compile.Aliases
import StatTree.Proofs.Sql.Rows

namespace StatTree

theorem JoinRule.asName_ne_name : ∀ rule ∈ registry, rule.asName ≠ rule.parent.name := by
  decide +kernel

namespace Query

variable {α : Type} [DecidableEq α] {server : Sql.Server α} {cells : Sql.Cells α}

def rows (server : Sql.Server α) (query : Query) : List (Sql.Record α) :=
  (query.lower.toOption.map (Sql.Select.rows server)).getD []

def matching (server : Sql.Server α) (parent : Target) (cells : Sql.Cells α) (child : Query) :
    List (Sql.Record α) :=
  ((trueJoin? parent child).map fun rule => rule.matching (child.rows server) cells).getD []

omit [DecidableEq α] in
def ownValues (node : Query) (cells : Sql.Cells α) : Sql.Record α :=
  node.baseColumns.map fun column => (column.name, .value (cells column.name))

def joinsOf (parent : Target) (children : List Query) : List (Query × JoinRule) :=
  children.filterMap fun child => (trueJoin? parent child).map fun rule => (child, rule)

theorem trueJoins_eq {node child : Query} {rule : JoinRule} {before after : List Query}
    (children : node.children = before ++ child :: after)
    (joined : trueJoin? node.target child = some rule) :
    node.trueJoins =
      joinsOf node.target before ++ (child, rule) :: joinsOf node.target after := by
  rw [trueJoins, children, List.filterMap_append, List.filterMap_cons_some (by rw [joined]; rfl)]
  rfl

def offersOf (server : Sql.Server α) (cells : Sql.Cells α) (join : Query × JoinRule) :
    String × List (Option (Sql.Record α)) :=
  (join.2.asName, Sql.offered (join.2.matching (join.1.rows server) cells))

theorem IsLevel.map_offers {node : Query} {level : Sql.Select} (shape : IsLevel node level) :
    level.joins.map (Sql.Joined.offers server cells) =
      node.trueJoins.map (offersOf server cells) := by
  rw [eq_comm, ← List.forall₂_eq_eq_eq, List.forall₂_map_left_iff, List.forall₂_map_right_iff]
  refine shape.joins.imp fun join joined found => ?_
  rw [offersOf, rows, found.2, Sql.Joined.offers, found.1]
  rfl

theorem prod_offersOf (parent : Target) (children : List Query) :
    (((joinsOf parent children).map (offersOf server cells)).map fun entry =>
        entry.2.length).prod =
      (children.map fun other => max 1 (other.matching server parent cells).length).prod := by
  induction children with
  | nil => rfl
  | cons child rest ih =>
    rw [List.map_cons, List.prod_cons, ← ih, joinsOf, matching]
    cases joined : trueJoin? parent child with
    | none =>
      -- Without a join nothing matches, and the factor is one.
      rw [List.filterMap_cons_none (by rw [joined]; rfl)]
      simp [joinsOf]
    | some rule =>
      rw [List.filterMap_cons_some (by rw [joined]; rfl)]
      simp [joinsOf, offersOf, Sql.length_offered]

theorem IsLevel.attached {node : Query} {level : Sql.Select} (shape : IsLevel node level) :
    level.Attached := by
  intro joined member
  obtain ⟨child, _, found, _⟩ := shape.exists_trueJoin member
  obtain ⟨inRegistry, parent, _⟩ := JoinRule.find?_eq_some (trueJoin?_eq_some_iff.mp found).2
  rw [shape.table, ← parent]
  exact ⟨rfl, JoinRule.asName_ne_name _ inRegistry⟩

theorem IsLevel.item_of_child {node child : Query} {level : Sql.Select} {rule : JoinRule}
    {before after : List Query} (shape : IsLevel node level)
    (children : node.children = before ++ child :: after)
    (joined : trueJoin? node.target child = some rule) :
    level.items[node.baseColumns.length + before.length]? = some rule.item := by
  obtain ⟨clauses, found, items⟩ := shape.items
  have atChild : node.children[before.length]? = some child := by simp [children]
  obtain ⟨clause, atClause, lookup⟩ := exists_getElem?_of_forall₂ found atChild
  rw [JoinClause.find_eq_subquery_iff.mpr (trueJoin?_eq_some_iff.mp joined).2] at lookup
  cases lookup
  rw [items, List.getElem?_append_right (by simp), List.getElem?_map, List.length_map,
    Nat.add_sub_cancel_left, atClause]
  rfl

def returned (server : Sql.Server α) (level : Sql.Select) (cells : Sql.Cells α) : Sql.Record α :=
  level.items.map fun item => (item.output, item.datum server (level.block server cells))

theorem IsLevel.take_returned {node : Query} {level : Sql.Select} (shape : IsLevel node level)
    (own : ∀ column ∈ node.baseColumns, column.relation = node.target.name) :
    (returned server level cells).take node.baseColumns.length = node.ownValues cells := by
  obtain ⟨clauses, _, items⟩ := shape.items
  rw [returned, items, List.map_append, List.take_left' (by simp), List.map_map, ownValues]
  refine List.map_congr_left fun column member => ?_
  have some : level.block server cells ≠ [] := Sql.Select.block_ne_nil cells
  obtain ⟨first, rest, block⟩ := List.exists_cons_of_ne_nil some
  have inBlock : first ∈ level.block server cells := by simp [block]
  have value : first.value column = cells column.name :=
    Sql.Scope.value_of_mem_extended inBlock ((own column member).trans shape.table.symm)
  simp [Sql.SelectItem.output, Sql.SelectItem.datum, block, value]

/-- How often each row stands in the array of a child whose parent has these other children. -/
def copies (server : Sql.Server α) (parent : Target) (cells : Sql.Cells α) (others : List Query) :
    Nat :=
  (others.map fun other => max 1 (other.matching server parent cells).length).prod

theorem copies_pos (parent : Target) (others : List Query) :
    0 < copies server parent cells others := by
  induction others with
  | nil => exact Nat.one_pos
  | cons other rest ih =>
    rw [copies, List.map_cons, List.prod_cons]
    exact Nat.mul_pos (by omega) ih

theorem copies_eq_one_iff (parent : Target) (others : List Query) :
    copies server parent cells others = 1 ↔
      ∀ other ∈ others, (other.matching server parent cells).length ≤ 1 := by
  induction others with
  | nil => simp [copies]
  | cons other rest ih =>
    rw [List.forall_mem_cons, ← ih, copies, List.map_cons, List.prod_cons, mul_eq_one]
    refine and_congr ?_ Iff.rfl
    omega

variable (server cells) in
theorem IsLevel.map_row?_block {node child : Query} {level : Sql.Select} {rule : JoinRule}
    {before after : List Query} (shape : IsLevel node level)
    (children : node.children = before ++ child :: after)
    (joined : trueJoin? node.target child = some rule) (targets : node.joinedTargets.Nodup) :
    (((level.block server cells).map fun scope => scope.row? rule.asName :
        List (Option (Sql.Record α))) : Multiset (Option (Sql.Record α))) =
      copies server node.target cells (before ++ after) •
        (Sql.offered (child.matching server node.target cells) :
          Multiset (Option (Sql.Record α))) := by
  have aliases := shape.nodup_aliases_iff.mpr targets
  rw [shape.aliases_eq, trueJoins_eq children joined, List.map_append, List.map_cons] at aliases
  have fresh : rule.asName ∉
      ((joinsOf node.target after).map (offersOf server cells)).map Prod.fst := by
    rw [List.map_map]
    exact (List.nodup_cons.mp (List.nodup_append.mp aliases).2.1).1
  have own : child.matching server node.target cells =
      rule.matching (child.rows server) cells := by
    rw [matching, joined, Option.map_some, Option.getD_some]
  rw [Sql.Select.block, shape.map_offers, trueJoins_eq children joined, List.map_append,
    List.map_cons, offersOf, ← own, Sql.Scope.map_row?_extended _ _ fresh, ← List.map_append,
    joinsOf, joinsOf, ← List.filterMap_append]
  exact congrArg (· • _) (prod_offersOf node.target (before ++ after))

variable (server cells) in
theorem IsLevel.exists_array {node child : Query} {level : Sql.Select} {rule : JoinRule}
    {before after : List Query} (shape : IsLevel node level)
    (children : node.children = before ++ child :: after)
    (joined : trueJoin? node.target child = some rule) (targets : node.joinedTargets.Nodup) :
    ∃ array, (returned server level cells)[node.baseColumns.length + before.length]? =
        some (rule.output, .array array) ∧
      (array : Multiset (Option (Sql.Record α))) =
        copies server node.target cells (before ++ after) •
          ((child.matching server node.target cells).map some :
            Multiset (Option (Sql.Record α))) := by
  obtain ⟨array, datum, rows⟩ := Sql.SelectItem.exists_datum_array
    (shape.map_row?_block server cells children joined targets)
  refine ⟨array, ?_, rows⟩
  rw [returned, List.getElem?_map, shape.item_of_child children joined, Option.map_some]
  exact congrArg (fun datum => some (rule.output, datum)) datum

theorem IsLevel.rows_eq_map {node child : Query} {level : Sql.Select} {rule : JoinRule}
    (shape : IsLevel node level) (below : child ∈ node.children)
    (joined : trueJoin? node.target child = some rule)
    (own : ∀ column ∈ node.baseColumns, column.relation = node.target.name)
    (alone : ∀ fragment ∈ node.filter, ∀ scope,
      server.holds fragment scope = server.holds fragment scope.alone)
    (distinct : (server.tables node.target.name).Pairwise fun a b =>
      ∃ column ∈ node.baseColumns, a column.name ≠ b column.name)
    (member : cells ∈ level.passing server) :
    level.rows server = (level.passing server).map (returned server level) := by
  obtain ⟨join, inLevel, _⟩ := shape.exists_joined below joined
  have grouped : level.groupBy = node.baseColumns := by
    rw [shape.groupBy, List.isEmpty_eq_false_iff.mpr (List.ne_nil_of_mem inLevel)]
    exact if_neg Bool.false_ne_true
  obtain ⟨before, after, children⟩ := List.append_of_mem below
  have aggregate : level.items.any Sql.SelectItem.isArray :=
    List.any_eq_true.mpr ⟨_, List.mem_of_getElem? (shape.item_of_child children joined), rfl⟩
  refine Sql.Select.rows_eq_map shape.attached ?_ aggregate ?_ ?_ (List.ne_nil_of_mem member)
  · rwa [shape.filter]
  · rwa [grouped, shape.table]
  · rw [grouped, Sql.Select.passing, shape.table]
    exact distinct.filter _

omit [DecidableEq α] in
theorem ownValues_ne {node : Query} {a b : Sql.Cells α}
    (told : ∃ column ∈ node.baseColumns, a column.name ≠ b column.name) :
    node.ownValues a ≠ node.ownValues b := by
  obtain ⟨column, member, apart⟩ := told
  intro same
  have pair := List.map_inj_left.mp same column member
  simp only [Prod.mk.injEq, true_and, Sql.Datum.value.injEq] at pair
  exact apart pair

/-- In the array of a joined child each matching row stands once for every combination of what the
    other joined children have, so that it is empty exactly where nothing matches. The targets of
    the joined children differ, as a server binds no alias of a level twice. -/
theorem array_eq_copies_of_matching {root node child : Query} {sql : String} {rule : JoinRule}
    {before after : List Query} (compiled : root.compile = .ok sql) (low : Lowered root node)
    (children : node.children = before ++ child :: after)
    (joined : trueJoin? node.target child = some rule) (targets : node.joinedTargets.Nodup)
    (own : ∀ column ∈ node.baseColumns, column.relation = node.target.name)
    (alone : ∀ fragment ∈ node.filter, ∀ scope,
      server.holds fragment scope = server.holds fragment scope.alone)
    (distinct : (server.tables node.target.name).Pairwise fun a b =>
      ∃ column ∈ node.baseColumns, a column.name ≠ b column.name)
    (member : cells ∈ server.tables node.target.name)
    (passes : ∀ fragment ∈ node.filter, server.holds fragment ⟨node.target.name, cells, []⟩) :
    ∃ statement level front row back, ∃ array : List (Option (Sql.Record α)),
      root.select = .ok statement ∧ statement.text = sql ∧ level ∈ statement.levels ∧
      node.select = .ok level ∧ level.rows server = front ++ row :: back ∧
      row.take node.baseColumns.length = node.ownValues cells ∧
      (∀ other ∈ front ++ back, other.take node.baseColumns.length ≠ node.ownValues cells) ∧
      row[node.baseColumns.length + before.length]? = some (rule.output, .array array) ∧
      (array : Multiset (Option (Sql.Record α))) =
        copies server node.target cells (before ++ after) •
          ((child.matching server node.target cells).map some :
            Multiset (Option (Sql.Record α))) ∧
      (array = [] ↔ child.matching server node.target cells = []) ∧
      ((array : Multiset (Option (Sql.Record α))) =
          ((child.matching server node.target cells).map some :
            Multiset (Option (Sql.Record α))) ↔
        child.matching server node.target cells = [] ∨
          ∀ other ∈ before ++ after, (other.matching server node.target cells).length ≤ 1) := by
  obtain ⟨signatures, statement, lowers, text⟩ := compile_eq_ok_iff.mp compiled
  obtain ⟨level, inStatement, inner⟩ := low.exists_mem_levels lowers
  obtain ⟨path, found⟩ := low.exists_at?
  have selects := select_eq_ok_iff.mpr ⟨signatures.below found, inner⟩
  have shape := isLevel_of_lower inner
  have below : child ∈ node.children := by simp [children]
  have passing : cells ∈ level.passing server := by
    rw [Sql.Select.passing, shape.table, shape.filter, List.mem_filter, Option.all_eq_true]
    exact ⟨member, passes⟩
  have told : (level.passing server).Pairwise fun a b =>
      ∃ column ∈ node.baseColumns, a column.name ≠ b column.name := by
    rw [Sql.Select.passing, shape.table]
    exact distinct.filter _
  have rows := shape.rows_eq_map below joined own alone distinct passing
  obtain ⟨array, inRow, count⟩ := shape.exists_array server cells children joined targets
  obtain ⟨front, back, split⟩ := List.append_of_mem passing
  rw [split] at rows told
  obtain ⟨_, right, across⟩ := List.pairwise_append.mp told
  obtain ⟨later, _⟩ := List.pairwise_cons.mp right
  refine ⟨statement, level, front.map (returned server level), returned server level cells,
    back.map (returned server level), array, select_eq_ok_iff.mpr ⟨signatures, lowers⟩, text,
    inStatement, selects, ?_, shape.take_returned own, ?_, inRow, count, ?_, ?_⟩
  · rw [rows, List.map_append, List.map_cons]
  · intro other inOthers
    rw [← List.map_append] at inOthers
    obtain ⟨cells', inRows, rfl⟩ := List.mem_map.mp inOthers
    rw [shape.take_returned own]
    rcases List.mem_append.mp inRows with inFront | inBack
    · exact ownValues_ne (across cells' inFront cells List.mem_cons_self)
    · exact (ownValues_ne (later cells' inBack)).symm
  · have some : copies server node.target cells (before ++ after) ≠ 0 :=
      Nat.pos_iff_ne_zero.mp (copies_pos _ _)
    rw [← List.length_eq_zero_iff, ← Multiset.coe_card, count, Multiset.card_nsmul,
      Multiset.coe_card, List.length_map, Nat.mul_eq_zero, List.length_eq_zero_iff]
    exact or_iff_right some
  · rw [count, nsmul_eq_self_iff, Multiset.coe_eq_zero, List.map_eq_nil_iff, copies_eq_one_iff]

def busyTables : Query :=
  ((View.statUserTables.query .postgres13).withFilter "pg_stat_user_tables.relid > 0").withChildren
    [View.locks.query .postgres13, View.statUserIndexes.query .postgres13]

def cellsOf (values : List (String × Nat)) : Sql.Cells Nat := fun name => values.lookup name

def busyServer : Sql.Server Nat where
  tables
    | "pg_stat_user_tables" => [cellsOf [("relid", 1)], cellsOf [("relid", 2)]]
    | "pg_locks" => [cellsOf [("relation", 1), ("pid", 7)], cellsOf [("relation", 1), ("pid", 8)]]
    | "pg_stat_user_indexes" =>
      [cellsOf [("relid", 1), ("indexrelid", 3)], cellsOf [("relid", 1), ("indexrelid", 4)],
        cellsOf [("relid", 2), ("indexrelid", 5)]]
    | _ => []
  holds _ scope := (scope.cells "relid").isSome
  call _ _ := none

theorem busyTables_distinct :
    (busyServer.tables busyTables.target.name).Pairwise fun a b =>
      ∃ column ∈ busyTables.baseColumns, a column.name ≠ b column.name := by
  refine List.pairwise_pair.mpr ⟨⟨"pg_stat_user_tables", "relid"⟩, ?_, ?_⟩ <;> decide +kernel

theorem busyTables_single :
    let cells := cellsOf [("relid", 2)]
    let index := (View.statUserIndexes.query .postgres13).matching busyServer .statUserTables cells
    index.length = 1 ∧ ∃ statement level, busyTables.compile = .ok (Sql.Select.text statement) ∧
      level ∈ statement.levels ∧ busyTables.select = .ok level ∧
      ∃ row ∈ level.rows busyServer, row.take 23 = busyTables.ownValues cells ∧
        ∃ array : List (Option (Sql.Record Nat)), row[24]? = some ("indexes", .array array) ∧
          (array : Multiset (Option (Sql.Record Nat))) =
            (index.map some : Multiset (Option (Sql.Record Nat))) := by
  intro cells index
  have compiled : ∃ sql, busyTables.compile = .ok sql := ⟨_, rfl⟩
  obtain ⟨sql, compiled⟩ := compiled
  have children : busyTables.children =
      [View.locks.query .postgres13] ++ View.statUserIndexes.query .postgres13 :: [] := rfl
  have targets : busyTables.joinedTargets.Nodup := by decide +kernel
  have own : ∀ column ∈ busyTables.baseColumns, column.relation = busyTables.target.name := by
    decide +kernel
  obtain ⟨statement, level, front, row, back, array, _, rfl, inStatement, selects, rows, values, _,
    atIndexes, _, _, exact⟩ := array_eq_copies_of_matching compiled .self children rfl targets own
      (fun _ _ _ => rfl) busyTables_distinct (List.mem_cons_of_mem _ List.mem_cons_self)
      (fun _ _ => rfl)
  refine ⟨rfl, statement, level, compiled, inStatement, selects, row, ?_, values, array, atIndexes,
    exact.mpr (.inr ?_)⟩
  · rw [rows]
    exact List.mem_append_right _ List.mem_cons_self
  · exact List.forall_mem_singleton.mpr (Nat.zero_le 1)

theorem busyTables_crossed :
    let cells := cellsOf [("relid", 1)]
    let indexes :=
      (View.statUserIndexes.query .postgres13).matching busyServer .statUserTables cells
    ((busyServer.tables busyTables.target.name).Pairwise fun a b =>
      ∃ column ∈ busyTables.baseColumns, a column.name ≠ b column.name) ∧
    indexes.length = 2 ∧ ∃ statement, busyTables.select = .ok statement ∧
      busyTables.compile = .ok statement.text ∧
      ∃ row ∈ statement.rows busyServer, row.take 23 = busyTables.ownValues cells ∧
        ∃ array : List (Option (Sql.Record Nat)), row[24]? = some ("indexes", .array array) ∧
          array.length = 4 ∧ (array : Multiset (Option (Sql.Record Nat))) ≠
            (indexes.map some : Multiset (Option (Sql.Record Nat))) := by
  intro cells indexes
  refine ⟨busyTables_distinct, rfl, _, rfl, rfl, _, List.mem_cons_self, rfl, _, rfl, rfl, ?_⟩
  intro same
  exact absurd (congrArg Multiset.card same) (by decide +kernel)

end Query

end StatTree
