import StatTree.Proofs.Compile.FirstFailure
import StatTree.Proofs.Compile.Resolution
import StatTree.Proofs.Sql.Reading

namespace StatTree

namespace Target

theorem isName_name {target : Target} (specified : target ≠ .unspecified) :
    Sql.IsName target.name := by
  have names : ∀ target ∈ all, target ≠ .unspecified → Sql.IsName target.name := by
    decide +kernel
  exact names target (mem_all target) specified

def lockTargets : List Target := [.locks, .locksOnTxId]

theorem eq_or_lockTargets_of_name_eq {first second : Target} (same : first.name = second.name) :
    first = second ∨ (first ∈ lockTargets ∧ second ∈ lockTargets) := by
  have pairs : ∀ first ∈ all, ∀ second ∈ all, first.name = second.name →
      first = second ∨ (first ∈ lockTargets ∧ second ∈ lockTargets) := by
    decide +kernel
  exact pairs first (mem_all first) second (mem_all second) same

theorem named_of_columns {target : Target} {version : Version} :
    ∀ list ∈ target.columns version, ∀ column ∈ list.selects, column.Named := by
  cases version <;> cases target <;> decide +kernel

theorem columns_eq_of_name_eq {first second : Target} (same : first.name = second.name)
    (version : Version) : first.columns version = second.columns version := by
  rcases eq_or_lockTargets_of_name_eq same with rfl | ⟨locksFirst, locksSecond⟩
  · rfl
  · simp only [lockTargets, List.mem_cons, List.not_mem_nil, or_false] at locksFirst locksSecond
    rcases locksFirst with rfl | rfl <;> rcases locksSecond with rfl | rfl <;> cases version <;> rfl

end Target

theorem JoinRule.named_of_mem_registry : ∀ rule ∈ registry,
    rule.item.Named ∧ rule.left.Named ∧ rule.right.Named := by
  decide +kernel

theorem JoinRule.text_ne_blockedBy :
    ∀ rule ∈ registry, rule.item.text ≠ JoinClause.blockedBy.text := by
  decide +kernel

theorem JoinClause.named_blockedBy : blockedBy.Named := by decide +kernel

theorem JoinRule.parent_ne_locksOnTxId : ∀ rule ∈ registry, rule.parent ≠ .locksOnTxId := by
  decide

theorem JoinClause.child_eq_of_text_eq {parent other child sibling : Target}
    {first second : JoinClause} (relation : parent.name = other.name)
    (found : find parent child = .ok first) (foundOther : find other sibling = .ok second)
    (same : first.item.text = second.item.text) : child = sibling := by
  rcases find_eq_ok found with ⟨rule, rfl, lookup⟩ | ⟨_, pids, rfl⟩
  · obtain ⟨inRegistry, hp, hc⟩ := JoinRule.find?_eq_some lookup
    rcases find_eq_ok foundOther with ⟨rule', rfl, lookup'⟩ | ⟨_, _, rfl⟩
    · obtain ⟨inRegistry', hp', hc'⟩ := JoinRule.find?_eq_some lookup'
      have asName := Sql.SelectItem.asName_eq_of_text_eq
        (JoinRule.named_of_mem_registry rule inRegistry).1.1
        (JoinRule.named_of_mem_registry rule' inRegistry').1.1 same
      rw [← hc, ← hc']
      exact JoinRule.child_eq_of_asName_eq rule inRegistry rule' inRegistry'
        (by rw [hp, hp', relation]) asName
    · exact absurd same (JoinRule.text_ne_blockedBy rule inRegistry)
  · rcases find_eq_ok foundOther with ⟨rule', rfl, lookup'⟩ | ⟨_, pids', rfl⟩
    · exact absurd same.symm (JoinRule.text_ne_blockedBy rule' (JoinRule.find?_eq_some lookup').1)
    · rw [pids, pids']

theorem JoinClause.find_ne_ok_of_locksOnTxId {child : Target} {clause : JoinClause} :
    find .locksOnTxId child ≠ .ok clause := by
  intro found
  rcases find_eq_ok found with ⟨rule, _, lookup⟩ | ⟨⟨⟩, _⟩
  obtain ⟨inRegistry, parent, _⟩ := JoinRule.find?_eq_some lookup
  exact JoinRule.parent_ne_locksOnTxId rule inRegistry parent

namespace Query

theorem Standard.named {version : Version} {node : Query} {level : Sql.Select}
    (standard : Standard version node) (lowers : node.lower = .ok level) : level.Named := by
  have shape := isLevel_of_lower lowers
  have base : ∀ column ∈ node.baseColumns, column.Named := by
    intro column member
    obtain ⟨list, found, inList⟩ := mem_baseColumns_iff.mp member
    exact Target.named_of_columns list (standard.columns.symm.trans found) column inList
  refine ⟨?_, ?_, ?_, ?_⟩
  · intro item member
    rcases shape.mem_items member with ⟨column, inBase, rfl⟩ | ⟨_, _, rule, found, rfl⟩ | ⟨_, rfl⟩
    · exact base column inBase
    · exact (JoinRule.named_of_mem_registry rule (JoinRule.find?_eq_some found).1).1
    · exact JoinClause.named_blockedBy
  · have valid := (lower_eq_ok_iff.mp lowers).1
    rw [isValid, Bool.and_eq_true, bne_iff_ne] at valid
    rw [shape.table]
    exact Target.isName_name valid.1
  · intro joined member
    obtain ⟨child, _, found, _⟩ := shape.exists_trueJoin member
    have lookup := (trueJoin?_eq_some_iff.mp found).2
    obtain ⟨item, left, right⟩ :=
      JoinRule.named_of_mem_registry _ (JoinRule.find?_eq_some lookup).1
    exact ⟨item.1, left, right⟩
  · intro column member
    rw [shape.groupBy] at member
    split at member
    · cases member
    · exact base column member

structure Legible (version : Version) (root : Query) : Prop where
  standard : ∀ node ∈ root.nodes, Standard version node
  filters : ∀ node, Lowered root node → ∀ filter ∈ node.filter, Text.Balanced filter.toList

theorem Legible.self {version : Version} {node : Query} (legible : Legible version node) :
    Standard version node := legible.standard node (mem_nodes_self node)

theorem Legible.child {version : Version} {node child : Query} (legible : Legible version node)
    (member : child ∈ node.children) : Standard version child :=
  legible.standard child (child_mem_nodes member)

theorem Legible.lowered {version : Version} {root node : Query} (legible : Legible version root)
    (low : Lowered root node) : Legible version node := by
  obtain ⟨path, found⟩ := low.exists_at?
  refine ⟨fun other member => ?_, fun other below => legible.filters other (low.trans below)⟩
  obtain ⟨rest, foundOther⟩ := mem_nodes_iff.mp member
  refine legible.standard other (mem_nodes_iff.mpr ⟨path ++ rest, ?_⟩)
  rw [at?_append, found, Option.bind_some, foundOther]

theorem Legible.balanced_text {version : Version} {root : Query} {statement : Sql.Select}
    (legible : Legible version root) (lowers : root.lower = .ok statement) :
    Text.Balanced statement.text.toList := by
  induction root using node_induction generalizing statement with
  | node root ih =>
    have shape := isLevel_of_lower lowers
    refine (legible.self.named lowers).balanced_text (fun joined member => ?_) ?_
    · obtain ⟨child, hc, found, lowersChild⟩ := shape.exists_trueJoin member
      exact ih child hc (legible.lowered (Lowered.self.of_trueJoin hc found)) lowersChild
    · rw [shape.filter]
      exact legible.filters root .self

theorem Legible.balanced_subquery {version : Version} {node : Query} {level : Sql.Select}
    (legible : Legible version node) (lowers : node.lower = .ok level)
    {joined : Sql.Joined Sql.Select} (member : joined ∈ level.joins) :
    Text.Balanced joined.subquery.text.toList := by
  obtain ⟨child, hc, found, lowersChild⟩ := (isLevel_of_lower lowers).exists_trueJoin member
  exact (legible.lowered (Lowered.self.of_trueJoin hc found)).balanced_text lowersChild

mutual

/-- A child without what the text of its parent leaves out: blocking process ids lose their filter
    and all that is below them, there and further down. -/
def shown (child : Query) : Query :=
  match child with
  | ⟨target, columns, selectOnly, filter, children⟩ =>
    if target = .blockingPids then ⟨target, columns, selectOnly, none, []⟩
    else ⟨target, columns, selectOnly, filter, shownOf children⟩

def shownOf : List Query → List Query
  | [] => []
  | child :: rest => child.shown :: shownOf rest

end

theorem shownOf_eq (children : List Query) : shownOf children = children.map shown := by
  induction children with
  | nil => rfl
  | cons child rest ih => rw [shownOf, ih, List.map_cons]

theorem shown_eq (child : Query) : child.shown =
    if child.target = .blockingPids then ⟨child.target, child.columns, child.selectOnly, none, []⟩
    else ⟨child.target, child.columns, child.selectOnly, child.filter,
      child.children.map shown⟩ := by
  cases child
  rw [shown, shownOf_eq]

theorem Standard.baseColumns_eq {version : Version} {a b : Query} (hA : Standard version a)
    (hB : Standard version b) (relation : a.target.name = b.target.name) :
    a.baseColumns = b.baseColumns := by
  rw [baseColumns, baseColumns, hA.columns, hB.columns, Target.columns_eq_of_name_eq relation]

theorem targets_eq_of_items_eq {parent other : Target} {as bs : List Query}
    {clauses others : List JoinClause} (relation : parent.name = other.name)
    (found : List.Forall₂ (fun child clause => JoinClause.find parent child.target = .ok clause)
      as clauses)
    (foundOther : List.Forall₂ (fun child clause => JoinClause.find other child.target = .ok clause)
      bs others)
    (same : clauses.map (fun clause => clause.item.text) =
      others.map fun clause => clause.item.text) : as.map target = bs.map target := by
  induction found generalizing bs others with
  | nil =>
    cases foundOther with
    | nil => rfl
    | cons => cases same
  | cons first _ ih =>
    cases foundOther with
    | nil => cases same
    | cons firstOther rest =>
      obtain ⟨text, texts⟩ := List.cons.inj same
      rw [List.map_cons, List.map_cons, ih rest texts,
        JoinClause.child_eq_of_text_eq relation first firstOther text]

section

variable {version : Version} {a b : Query} {levelA levelB : Sql.Select}

theorem IsLevel.targets_eq (shapeA : IsLevel a levelA) (shapeB : IsLevel b levelB)
    (relation : a.target.name = b.target.name) (base : a.baseColumns = b.baseColumns)
    (fields : levelA.items.map Sql.SelectItem.text = levelB.items.map Sql.SelectItem.text) :
    a.children.map target = b.children.map target := by
  obtain ⟨clauses, found, items⟩ := shapeA.items
  obtain ⟨others, foundOther, itemsOther⟩ := shapeB.items
  rw [items, itemsOther, base, List.map_append, List.map_append, List.map_map (l := clauses),
    List.map_map (l := others)] at fields
  exact targets_eq_of_items_eq relation found foundOther (List.append_cancel_left fields)

theorem IsLevel.childless_of_locksOnTxId (shape : IsLevel a levelA)
    (onTxId : a.target = .locksOnTxId) : a.children = [] := by
  obtain ⟨clauses, found, _⟩ := shape.items
  refine List.eq_nil_iff_forall_not_mem.mpr fun child member => ?_
  obtain ⟨clause, _, lookup⟩ := exists_mem_right_of_forall₂ found member
  rw [onTxId] at lookup
  exact JoinClause.find_ne_ok_of_locksOnTxId lookup

/-- Only the lock targets share a relation, and under one of them nothing can be joined. -/
theorem IsLevel.target_eq_or_childless (shapeA : IsLevel a levelA) (shapeB : IsLevel b levelB)
    (relation : a.target.name = b.target.name)
    (targets : a.children.map target = b.children.map target) :
    a.target = b.target ∨ (a.children = [] ∧ b.children = []) := by
  rcases Target.eq_or_lockTargets_of_name_eq relation with same | ⟨locksA, locksB⟩
  · exact .inl same
  · simp only [Target.lockTargets, List.mem_cons, List.not_mem_nil, or_false] at locksA locksB
    rcases locksA with locksA | onTxId
    · rcases locksB with locksB | onTxId
      · exact .inl (locksA.trans locksB.symm)
      · have none := shapeB.childless_of_locksOnTxId onTxId
        rw [none, List.map_nil, List.map_eq_nil_iff] at targets
        exact .inr ⟨targets, none⟩
    · have none := shapeA.childless_of_locksOnTxId onTxId
      rw [none, List.map_nil, eq_comm, List.map_eq_nil_iff] at targets
      exact .inr ⟨none, targets⟩

def rules (query : Query) : List (Option JoinRule) :=
  query.children.map fun child => JoinRule.find? query.target child.target

theorem IsLevel.rules_eq_rules (shapeA : IsLevel a levelA) (shapeB : IsLevel b levelB)
    (relation : a.target.name = b.target.name)
    (targets : a.children.map target = b.children.map target) : a.rules = b.rules := by
  rcases shapeA.target_eq_or_childless shapeB relation targets with same | ⟨noneA, noneB⟩
  · have found := congrArg (List.map (JoinRule.find? a.target)) targets
    rw [List.map_map, List.map_map] at found
    rw [rules, rules, ← same]
    exact found
  · rw [rules, rules, noneA, noneB]
    rfl

theorem IsLevel.joinRules_eq (shape : IsLevel a levelA)
    (standard : ∀ child ∈ a.children, Standard version child) :
    levelA.joins.map Sql.Joined.rule = a.rules.filterMap id := by
  have joins : levelA.joins.map Sql.Joined.rule = a.trueJoins.map Prod.snd := by
    rw [← List.forall₂_eq_eq_eq, List.forall₂_map_left_iff, List.forall₂_map_right_iff]
    exact (shape.joins.imp fun _ _ found => found.1).flip
  rw [joins, trueJoins, rules, List.map_filterMap, List.filterMap_map]
  refine List.filterMap_congr fun child member => ?_
  rw [Option.map_map, (standard child member).trueJoin?_eq]
  exact Option.map_id'

def joinedText? (parent : Target) (child : Query) : Option (Except QueryError String) :=
  (trueJoin? parent child).map fun _ => child.assemble

theorem IsLevel.joinedTexts_eq (shape : IsLevel a levelA) :
    a.children.filterMap (joinedText? a.target) =
      levelA.joins.map fun joined => .ok joined.subquery.text := by
  have texts : a.trueJoins.map (fun join => join.1.assemble) =
      levelA.joins.map fun joined => .ok joined.subquery.text := by
    rw [← List.forall₂_eq_eq_eq, List.forall₂_map_left_iff, List.forall₂_map_right_iff]
    refine shape.joins.imp fun join joined found => ?_
    rw [assemble_eq_lower, found.2]
    rfl
  rw [← texts, trueJoins, List.map_filterMap]
  simp only [Option.map_map]
  rfl

theorem isSome_joinedTexts_eq (standard : ∀ child ∈ a.children, Standard version child) :
    a.children.map (fun child => (joinedText? a.target child).isSome) =
      a.rules.map Option.isSome := by
  rw [rules, List.map_map]
  refine List.map_congr_left fun child member => ?_
  rw [joinedText?, Option.isSome_map, (standard child member).trueJoin?_eq]
  rfl

theorem Legible.read (legibleA : Legible version a) (legibleB : Legible version b)
    (lowersA : a.lower = .ok levelA) (lowersB : b.lower = .ok levelB)
    (same : levelA.text = levelB.text) :
    a.target.name = b.target.name ∧ a.filter = b.filter ∧
      List.Forall₂ (fun child other => child.target = other.target ∧
        joinedText? a.target child = joinedText? b.target other) a.children b.children := by
  have shapeA := isLevel_of_lower lowersA
  have shapeB := isLevel_of_lower lowersB
  obtain ⟨fields, table, tail⟩ :=
    Sql.Select.head_eq_of_text_eq (legibleA.self.named lowersA) (legibleB.self.named lowersB) same
  have relation : a.target.name = b.target.name := by rw [← shapeA.table, table, shapeB.table]
  have base := legibleA.self.baseColumns_eq legibleB.self relation
  have targets := shapeA.targets_eq shapeB relation base fields
  have rules := shapeA.rules_eq_rules shapeB relation targets
  -- From the rules on, the tail is known but for the subqueries and the filter.
  have joinRules : levelA.joins.map Sql.Joined.rule = levelB.joins.map Sql.Joined.rule := by
    rw [shapeA.joinRules_eq fun _ => legibleA.child, shapeB.joinRules_eq fun _ => legibleB.child,
      rules]
  have groupBy : levelA.groupBy = levelB.groupBy := by
    have joins := congrArg List.isEmpty joinRules
    rw [List.isEmpty_map, List.isEmpty_map] at joins
    rw [shapeA.groupBy, shapeB.groupBy, joins, base]
  obtain ⟨subqueries, filter⟩ := Sql.Select.subqueries_eq_of_tail_eq joinRules groupBy
    (fun _ member => legibleA.balanced_subquery lowersA member)
    (fun _ member => legibleB.balanced_subquery lowersB member) tail
  have places : a.children.map (fun child => (joinedText? a.target child).isSome) =
      b.children.map fun child => (joinedText? b.target child).isSome := by
    rw [isSome_joinedTexts_eq fun _ => legibleA.child,
      isSome_joinedTexts_eq fun _ => legibleB.child, rules]
  have texts : a.children.filterMap (joinedText? a.target) =
      b.children.filterMap (joinedText? b.target) := by
    have oks := congrArg (List.map (Except.ok (ε := QueryError))) subqueries
    rw [List.map_map, List.map_map] at oks
    rw [shapeA.joinedTexts_eq, shapeB.joinedTexts_eq]
    exact oks
  rw [← List.forall₂_eq_eq_eq, List.forall₂_map_left_iff, List.forall₂_map_right_iff]
    at targets places
  refine ⟨relation, by rw [← shapeA.filter, filter, shapeB.filter], ?_⟩
  exact targets.mp (fun _ _ target text => ⟨target, text⟩) (forall₂_eq_of_filterMap_eq places texts)

theorem Legible.exists_joinedText (legible : Legible version a) (lowers : a.lower = .ok levelA)
    {child : Query} (member : child ∈ a.children) (other : child.target ≠ .blockingPids) :
    Legible version child ∧ ∃ level, child.lower = .ok level ∧
      joinedText? a.target child = some (.ok level.text) := by
  have only := (legible.child member).selectOnly_eq_false other
  have pair : (a.target, child.target) ≠ (.statActivity, .blockingPids) :=
    fun special => other (Prod.mk.inj special).2
  obtain ⟨joinable, lowersChild⟩ := (exists_lower_step_iff.mp ⟨levelA, lowers⟩).2 child member
  obtain ⟨rule, found⟩ := joinable.exists_trueJoin only pair
  obtain ⟨level, lowersChild⟩ := lowersChild rule found
  refine ⟨legible.lowered (Lowered.self.of_trueJoin member found), level, lowersChild, ?_⟩
  rw [joinedText?, found, assemble_eq_lower, lowersChild]
  rfl

theorem Standard.selectOnly_eq (hA : Standard version a) (hB : Standard version b)
    (relation : a.target.name = b.target.name) : a.selectOnly = b.selectOnly := by
  have other : ∀ target ∈ Target.lockTargets, (target == .blockingPids) = false := by decide
  rw [hA.selectOnly, hB.selectOnly]
  rcases Target.eq_or_lockTargets_of_name_eq relation with same | ⟨locksA, locksB⟩
  · rw [same]
  · rw [other _ locksA, other _ locksB]

end

theorem Legible.shown_eq_of_text_eq {version : Version} {a b : Query} {levelA levelB : Sql.Select}
    (legibleA : Legible version a) (legibleB : Legible version b) (lowersA : a.lower = .ok levelA)
    (lowersB : b.lower = .ok levelB) (same : levelA.text = levelB.text) :
    a.columns = b.columns ∧ a.selectOnly = b.selectOnly ∧ a.filter = b.filter ∧
      a.children.map shown = b.children.map shown := by
  induction a using node_induction generalizing b levelA levelB with
  | node a ih =>
    obtain ⟨relation, filter, each⟩ := legibleA.read legibleB lowersA lowersB same
    refine ⟨?_, legibleA.self.selectOnly_eq legibleB.self relation, filter, ?_⟩
    · rw [legibleA.self.columns, legibleB.self.columns, Target.columns_eq_of_name_eq relation]
    · rw [← List.forall₂_eq_eq_eq, List.forall₂_map_left_iff, List.forall₂_map_right_iff]
      refine (mem_and_mem_of_forall₂ each).imp fun child other found => ?_
      obtain ⟨memberA, memberB, target, text⟩ := found
      rw [shown_eq, shown_eq, ← target]
      by_cases pids : child.target = .blockingPids
      · have childA := legibleA.child memberA
        have childB := legibleB.child memberB
        rw [if_pos pids, if_pos pids, childA.columns, childB.columns, childA.selectOnly,
          childB.selectOnly, target]
      -- Any other child is joined, so that its text is known and says what the child is.
      · obtain ⟨legibleChild, level, lowersChild, joined⟩ :=
          legibleA.exists_joinedText lowersA memberA pids
        obtain ⟨legibleOther, levelOther, lowersOther, joinedOther⟩ :=
          legibleB.exists_joinedText lowersB memberB (target ▸ pids)
        have texts : level.text = levelOther.text := by
          rw [joined, joinedOther] at text
          exact Except.ok.inj (Option.some.inj text)
        obtain ⟨columns, selectOnly, filter, children⟩ :=
          ih child memberA legibleChild legibleOther lowersChild lowersOther texts
        rw [if_neg pids, if_neg pids, columns, selectOnly, filter, children]

/-- Two trees of ready-made views that compile to one text, with filters whose parentheses match,
    are one tree, up to the target of the root where both read the locks, and up to what is in and
    below the blocking process ids. -/
theorem shown_eq_of_compile_eq {version : Version} {a b : Query} {sql : String}
    (assembledA : Assembled version a) (assembledB : Assembled version b)
    (filtersA : ∀ node, Lowered a node → ∀ filter ∈ node.filter, Text.Balanced filter.toList)
    (filtersB : ∀ node, Lowered b node → ∀ filter ∈ node.filter, Text.Balanced filter.toList)
    (compiledA : a.compile = .ok sql) (compiledB : b.compile = .ok sql) :
    (a.target = b.target ∨ (a.target ∈ Target.lockTargets ∧ b.target ∈ Target.lockTargets)) ∧
      a.columns = b.columns ∧ a.selectOnly = b.selectOnly ∧ a.filter = b.filter ∧
      a.children.map shown = b.children.map shown := by
  obtain ⟨_, levelA, lowersA, textA⟩ := compile_eq_ok_iff.mp compiledA
  obtain ⟨_, levelB, lowersB, textB⟩ := compile_eq_ok_iff.mp compiledB
  have legibleA : Legible version a := ⟨assembledA.standard, filtersA⟩
  have legibleB : Legible version b := ⟨assembledB.standard, filtersB⟩
  have same : levelA.text = levelB.text := by rw [textA, textB]
  have relation := (legibleA.read legibleB lowersA lowersB same).1
  exact ⟨Target.eq_or_lockTargets_of_name_eq relation,
    legibleA.shown_eq_of_text_eq legibleB lowersA lowersB same⟩

def watchedActivity (pids : Query) : Query :=
  (View.statActivity.query .postgres13).withChildren
    [(View.locks.query .postgres13).withFilter "(mode = 'ExclusiveLock') AND NOT (granted)", pids]

theorem watchedActivity_shown :
    ∃ sql, (watchedActivity blockingPids).compile = .ok sql ∧
      (watchedActivity (blockingPids.withFilter "pid = 1")).compile = .ok sql ∧
      (watchedActivity blockingPids).children.map shown =
        (watchedActivity (blockingPids.withFilter "pid = 1")).children.map shown := by
  have assembled : ∀ pids, Assembled .postgres13 pids →
      Assembled .postgres13 (watchedActivity pids) := by
    intro pids inner
    refine .withChildren (.view .statActivity) (List.forall_mem_cons.mpr ?_)
    exact ⟨.withFilter _ (.view .locks), List.forall_mem_singleton.mpr inner⟩
  have filters : ∀ pids ∈ [blockingPids, blockingPids.withFilter "pid = 1"],
      ∀ node ∈ (watchedActivity pids).nodes, ∀ filter ∈ node.filter,
        Text.Balanced filter.toList := by
    decide +kernel
  have compiled : ∃ sql, (watchedActivity blockingPids).compile = .ok sql ∧
      (watchedActivity (blockingPids.withFilter "pid = 1")).compile = .ok sql := ⟨_, rfl, rfl⟩
  obtain ⟨sql, plain, filtered⟩ := compiled
  rw [List.forall_mem_cons, List.forall_mem_singleton] at filters
  obtain ⟨_, _, _, _, same⟩ := shown_eq_of_compile_eq (assembled _ .blockingPids)
    (assembled _ (.withFilter _ .blockingPids))
    (fun node low => filters.1 node low.mem_nodes) (fun node low => filters.2 node low.mem_nodes)
    plain filtered
  exact ⟨sql, plain, filtered, same⟩

end Query

end StatTree
