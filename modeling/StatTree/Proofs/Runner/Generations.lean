import StatTree.Proofs.Compile.Resolution
import StatTree.Proofs.Runner.Journal

namespace StatTree

theorem Target.notMem_columns_of_mem {target : Target} :
    ∀ list ∈ target.columns .postgres9, list ∉ target.columns .postgres13 := by
  cases target <;> decide +kernel

theorem TypedView.exists_columns (view : TypedView) (version : Version) :
    ∃ list, view.view.columns version = some list ∧
      view.view.target.columns version = some list := by
  cases view <;> cases version <;> exact ⟨_, rfl, rfl⟩

def Sql.Select.Reads (level : Select) (version : Version) : Prop :=
  ∃ view : View, ∃ list, view.columns version = some list ∧ level.table = view.target.name ∧
    level.baseColumns = list.selects

namespace Query

def IsOf (node : Query) (version : Version) : Prop :=
  ∃ list, node.columns = some list ∧ node.target.columns version = some list

theorem IsOf.unique {node : Query} {a b : Version} (first : node.IsOf a) (second : node.IsOf b) :
    a = b := by
  obtain ⟨list, found, inA⟩ := first
  obtain ⟨_, same, inB⟩ := second
  obtain rfl := Option.some.inj (found.symm.trans same)
  cases a <;> cases b
  · rfl
  · exact absurd inB (Target.notMem_columns_of_mem list inA)
  · exact absurd inA (Target.notMem_columns_of_mem list inB)
  · rfl

theorem IsLevel.reads {node : Query} {level : Sql.Select} {version : Version}
    (shape : IsLevel node level) (isOf : node.IsOf version) : level.Reads version := by
  obtain ⟨list, columns, found⟩ := isOf
  obtain ⟨view, target, own⟩ := Target.exists_view_of_columns found
  refine ⟨view, list, own, ?_, ?_⟩
  · rw [shape.table, target]
  · rw [shape.baseColumns_eq, baseColumns, columns, Option.map_some, Option.getD_some]

theorem Lowered.ne_blockingPids {root node : Query} (low : Lowered root node)
    (lowers : ∃ statement, root.lower = .ok statement) (top : root.target ≠ .blockingPids) :
    node.target ≠ .blockingPids := by
  cases low with
  | self => exact top
  | child above member only pair =>
    -- Below the root a lowered node has a rule, and no rule joins blocking process ids.
    obtain ⟨_, each⟩ := exists_lower_step_iff.mp (above.exists_lower lowers)
    obtain ⟨rule, lookup⟩ := JoinRule.mem_pairs_iff.mp ((each node member).1.2.resolve_right pair)
    obtain ⟨inRegistry, _, target⟩ := JoinRule.find?_eq_some lookup
    rw [← target]
    exact (JoinRule.ne_blockingPids_of_mem_registry rule inRegistry).2

theorem Gathered.exists_isOf {sources : Version → Prop} {root node : Query}
    (gathered : Gathered sources root) (low : Lowered root node)
    (lowers : ∃ statement, root.lower = .ok statement) (top : root.target ≠ .blockingPids) :
    ∃ version, sources version ∧ node.IsOf version := by
  have other := low.ne_blockingPids lowers top
  obtain ⟨version, source, standard⟩ := gathered.exists_standard node low.mem_nodes
  obtain ⟨valid, _⟩ := exists_lower_step_iff.mp (low.exists_lower lowers)
  exact ⟨version, source.resolve_right other, standard.exists_columns valid other⟩

theorem Standard.of_blockingPids {version other : Version} {node : Query}
    (standard : Standard version node) (pids : node.target = .blockingPids) :
    Standard other node := by
  refine standard_blockingPids other |>.alike pids.symm ?_ ?_
  · rw [standard.columns, pids]
    cases version <;> rfl
  · rw [standard.selectOnly, pids]
    rfl

theorem Gathered.standard_of_isOf {sources : Version → Prop} {root node : Query} {version : Version}
    (gathered : Gathered sources root) (member : node ∈ root.nodes)
    (isOf : node.target ≠ .blockingPids → node.IsOf version) : Standard version node := by
  obtain ⟨own, _, standard⟩ := gathered.exists_standard node member
  by_cases pids : node.target = .blockingPids
  · exact standard.of_blockingPids pids
  · obtain ⟨list, columns, found⟩ := isOf pids
    have same : node.IsOf own := ⟨list, columns, standard.columns.symm.trans columns⟩
    rwa [same.unique ⟨list, columns, found⟩] at standard

theorem Gathered.resolves_of_isOf {sources : Version → Prop} {root node : Query}
    {version : Version} {level : Sql.Select} (gathered : Gathered sources root)
    (all : ∀ node, Lowered root node → node.IsOf version) (low : Lowered root node)
    (lowers : node.lower = .ok level) : level.Resolves version := by
  refine resolves_of_lower lowers ?_ fun child member => ?_
  · exact gathered.standard_of_isOf low.mem_nodes fun _ => all node low
  · obtain ⟨_, _, standard⟩ := gathered.exists_standard child (low.mem_nodes_of_child member)
    refine gathered.standard_of_isOf (low.mem_nodes_of_child member) fun other => ?_
    have only := standard.selectOnly_eq_false other
    exact all child (.child low member only fun pair => other (Prod.mk.inj pair).2)

end Query

namespace TypedOperation

variable (operation : TypedOperation) (filter : String) (joins : List Query)

theorem target_query : (operation.query filter joins).target = operation.view.view.target := by
  obtain ⟨view, version⟩ := operation
  cases view <;> cases version <;> rfl

theorem columns_query : (operation.query filter joins).columns =
    operation.view.view.columns operation.version := by
  obtain ⟨view, version⟩ := operation
  cases view <;> cases version <;> rfl

theorem query_isOf : (operation.query filter joins).IsOf operation.version := by
  unfold Query.IsOf
  rw [target_query, columns_query]
  exact operation.view.exists_columns operation.version

theorem children_query : (operation.query filter joins).children = joins := by
  rw [query, Query.withChildren, Query.withFilter, Query.children_view, List.nil_append]

theorem target_query_ne_blockingPids :
    (operation.query filter joins).target ≠ .blockingPids := by
  rw [target_query]
  cases operation.view <;> decide

theorem gathered_query {sources : Version → Prop} (own : sources operation.version)
    (gathered : ∀ join ∈ joins, Query.Gathered sources join) :
    (operation.query filter joins).Gathered sources :=
  .withChildren (.withFilter filter (.view own _)) gathered

end TypedOperation

namespace Runner

variable {σ α : Type} {runner : Runner} {decode : Row → Except DatabaseError α}
  {executor : Executor σ} {operation : TypedOperation} {filter : String} {joins : List Query}
  {state : σ} {message : Sent}

theorem mem_sent_perform_iff {call : Call} :
    message ∈ (runner.perform decode executor call state).1.sent ↔
      ∃ sql, runner.statement call = .ok sql ∧ message = ⟨runner.context, sql⟩ := by
  rw [sent_perform, journal_singleton]
  cases runner.statement call <;> simp

/-- The root of what an operation sends is read as in the runner's generation, and each lowered node
    as in exactly one, which is the runner's or one of those that the joins come from. -/
theorem isOf_of_sent {sources : Version → Prop}
    (gathered : ∀ join ∈ joins, Query.Gathered sources join)
    (sent : message ∈
      (runner.perform decode executor (.typed operation filter joins) state).1.sent) :
    ∃ tree statement, tree = operation.query filter joins ∧ tree.select = .ok statement ∧
      message = ⟨runner.context, statement.text⟩ ∧ tree.IsOf runner.version ∧
      (∀ node, Query.Lowered tree node → ∃ version, node.IsOf version ∧
        (∀ other, node.IsOf other → other = version) ∧
        (version = runner.version ∨ sources version)) ∧
      (∀ level ∈ statement.levels, ∃ node version, Query.Lowered tree node ∧
        node.select = .ok level ∧ node.IsOf version ∧ level.Reads version) ∧
      ((∀ node, Query.Lowered tree node → node.IsOf runner.version) ↔
        ∀ join ∈ joins, Query.Lowered tree join →
          ∀ node, Query.Lowered join node → node.IsOf runner.version) ∧
      ((∀ node, Query.Lowered tree node → node.IsOf runner.version) →
        ∀ level ∈ statement.levels, level.Resolves runner.version) := by
  obtain ⟨sql, typed, rfl⟩ := mem_sent_perform_iff.mp sent
  obtain ⟨own, compiled⟩ := statement_typed_eq_ok_iff.mp typed
  obtain ⟨statement, selects, rfl, levels⟩ := Query.exists_select_of_compile compiled
  have lowers : ∃ level, (operation.query filter joins).lower = .ok level :=
    ⟨statement, (Query.select_eq_ok_iff.mp selects).2⟩
  have root := operation.query_isOf filter joins
  rw [own] at root
  have either : (operation.query filter joins).Gathered
      fun version => version = runner.version ∨ sources version :=
    operation.gathered_query filter joins (.inl own) fun join member =>
      (gathered join member).mono fun _ source => .inr source
  have each := fun node (low : Query.Lowered (operation.query filter joins) node) =>
    either.exists_isOf low lowers (operation.target_query_ne_blockingPids filter joins)
  refine ⟨_, statement, rfl, selects, rfl, root, fun node low => ?_, fun level member => ?_, ?_, ?_⟩
  · obtain ⟨version, source, isOf⟩ := each node low
    exact ⟨version, isOf, fun other also => also.unique isOf, source⟩
  · obtain ⟨node, low, inner⟩ := levels level member
    obtain ⟨version, _, isOf⟩ := each node low
    have shape := Query.isLevel_of_lower (Query.select_eq_ok_iff.mp inner).2
    exact ⟨node, version, low, inner, isOf, shape.reads isOf⟩
  · constructor
    · exact fun all join _ low node below => all node (low.trans below)
    · intro joined node low
      rcases low.eq_or_below with rfl | ⟨join, member, only, pair, below⟩
      · exact root
      · have under : Query.Lowered (operation.query filter joins) join :=
          .child .self member only pair
        rw [operation.children_query filter joins] at member
        exact joined join member under node below
  · intro all level member
    obtain ⟨node, low, inner⟩ := levels level member
    exact either.resolves_of_isOf all low (Query.select_eq_ok_iff.mp inner).2

def withoutRows : Executor Unit := fun _ state => (.ok [], state)

def sentFor (version : Version) (operation : TypedOperation) (joins : List Query) : List Sent :=
  ((⟨version, none⟩ : Runner).perform (fun row => .ok row) withoutRows
    (.typed operation "" joins) ()).1.sent

theorem lockedActivity_sent :
    let joins := [(View.locks.query .postgres13).withFilter "granted"]
    (∀ join ∈ joins, join.Gathered (· = .postgres13)) ∧
      ∃ message ∈ sentFor .postgres13 ⟨.statActivity, .postgres13⟩ joins,
        ∃ statement : Sql.Select, message = ⟨none, statement.text⟩ ∧ statement.joins.length = 1 ∧
          ∀ level ∈ statement.levels, level.Resolves .postgres13 := by
  intro joins
  have gathered : ∀ join ∈ joins, join.Gathered (· = .postgres13) :=
    List.forall_mem_singleton.mpr (.withFilter _ (.view (by rfl) .locks))
  have sent : ∃ message, message ∈ sentFor .postgres13 ⟨.statActivity, .postgres13⟩ joins :=
    ⟨_, List.mem_singleton.mpr rfl⟩
  obtain ⟨message, sent⟩ := sent
  obtain ⟨tree, statement, rfl, selects, text, _, each, _, _, resolves⟩ :=
    isOf_of_sent gathered sent
  refine ⟨gathered, message, sent, statement, text, ?_, resolves fun node low => ?_⟩
  · cases selects
    rfl
  · obtain ⟨version, isOf, _, rfl | rfl⟩ := each node low <;> exact isOf

theorem strayActivity_sent :
    let joins := [View.statSubscription.query .postgres13]
    let tree := TypedOperation.query ⟨.statActivity, .postgres9⟩ "" joins
    (∀ join ∈ joins, join.Gathered fun _ => True) ∧ ∃ statement, tree.select = .ok statement ∧
      sentFor .postgres9 ⟨.statActivity, .postgres9⟩ joins = [⟨none, statement.text⟩] ∧
      (∃ node, Query.Lowered tree node ∧ node.IsOf .postgres13 ∧ ¬node.IsOf .postgres9) ∧
      ∃ level ∈ statement.levels, level.Reads .postgres13 ∧ ¬level.Reads .postgres9 := by
  intro joins tree
  have compiled : ∃ sql, tree.compile = .ok sql := ⟨_, rfl⟩
  obtain ⟨sql, compiled⟩ := compiled
  obtain ⟨distinct, statement, lowers, rfl⟩ := Query.compile_eq_ok_iff.mp compiled
  have low : Query.Lowered tree (View.statSubscription.query .postgres13) :=
    .child .self List.mem_cons_self rfl (by decide)
  have later : (View.statSubscription.query .postgres13).IsOf .postgres13 := ⟨_, rfl, rfl⟩
  obtain ⟨level, member, inner⟩ := low.exists_mem_levels lowers
  have shape := Query.isLevel_of_lower inner
  have absent : ∀ view : View, view.target.name = Target.statSubscription.name →
      view.columns .postgres9 = none := by
    intro view
    cases view <;> decide
  refine ⟨List.forall_mem_singleton.mpr (.view trivial _), statement,
    Query.select_eq_ok_iff.mpr ⟨distinct, lowers⟩, ?_, ?_, level, member, shape.reads later, ?_⟩
  · rw [sentFor, sent_perform, journal_singleton, statement_typed_eq_ok_iff.mpr ⟨rfl, compiled⟩]
  · exact ⟨_, low, later, fun earlier => nomatch later.unique earlier⟩
  · intro reads
    obtain ⟨view, list, columns, table, _⟩ := reads
    rw [absent view (table.symm.trans shape.table)] at columns
    cases columns

end Runner

end StatTree
