import StatTree.Proofs.Compile.Acceptance
import StatTree.Views

namespace StatTree

def Target.columns (target : Target) (version : Version) : Option ColumnList :=
  (View.all.find? fun view => view.target == target).bind fun view => view.columns version

theorem Target.exists_view_of_columns {target : Target} {version : Version} {list : ColumnList}
    (found : target.columns version = some list) :
    ∃ view : View, view.target = target ∧ view.columns version = some list := by
  obtain ⟨view, lookup, columns⟩ := Option.bind_eq_some_iff.mp found
  have same := List.find?_some lookup
  exact ⟨view, beq_iff_eq.mp same, columns⟩

theorem Target.relation_of_columns {target : Target} {version : Version} :
    ∀ list ∈ target.columns version, list.relation = target.name := by
  cases version <;> cases target <;> decide +kernel

theorem Target.pid_mem_columns_statActivity (version : Version) :
    ∀ list ∈ Target.columns .statActivity version, "pid" ∈ list.columns := by
  cases version <;> decide +kernel

namespace JoinRule

theorem columns_of_mem_registry (version : Version) : ∀ rule ∈ registry,
    (∀ list ∈ rule.child.columns version, rule.childColumn ∈ list.columns) ∧
      ∀ list ∈ rule.parent.columns version, rule.parentColumn ∈ list.columns := by
  cases version <;> decide +kernel

theorem ne_blockingPids_of_mem_registry :
    ∀ rule ∈ registry, rule.parent ≠ .blockingPids ∧ rule.child ≠ .blockingPids := by
  decide

end JoinRule

namespace Query

/-- The trees put together from the views of a generation and the blocking process ids. -/
inductive Assembled (version : Version) : Query → Prop
  | view (view : View) : Assembled version (view.query version)
  | blockingPids : Assembled version blockingPids
  | withFilter {query : Query} (filter : String) :
    Assembled version query → Assembled version (query.withFilter filter)
  | withChildren {query : Query} {children : List Query} : Assembled version query →
    (∀ child ∈ children, Assembled version child) → Assembled version (query.withChildren children)

inductive Gathered (sources : Version → Prop) : Query → Prop
  | view {version : Version} (source : sources version) (view : View) :
    Gathered sources (view.query version)
  | blockingPids : Gathered sources blockingPids
  | withFilter {query : Query} (filter : String) :
    Gathered sources query → Gathered sources (query.withFilter filter)
  | withChildren {query : Query} {children : List Query} : Gathered sources query →
    (∀ child ∈ children, Gathered sources child) → Gathered sources (query.withChildren children)

theorem Assembled.gathered {version : Version} {query : Query}
    (assembled : Assembled version query) : Gathered (· = version) query := by
  induction assembled with
  | view view => exact .view (by rfl) view
  | blockingPids => exact .blockingPids
  | withFilter filter _ ih => exact .withFilter filter ih
  | withChildren _ _ ih ihChildren => exact .withChildren ih ihChildren

theorem Gathered.mono {sources sources' : Version → Prop} {query : Query}
    (more : ∀ version, sources version → sources' version) (gathered : Gathered sources query) :
    Gathered sources' query := by
  induction gathered with
  | view source view => exact .view (more _ source) view
  | blockingPids => exact .blockingPids
  | withFilter filter _ ih => exact .withFilter filter ih
  | withChildren _ _ ih ihChildren => exact .withChildren ih ihChildren

structure Standard (version : Version) (node : Query) : Prop where
  columns : node.columns = node.target.columns version
  selectOnly : node.selectOnly = (node.target == .blockingPids)

theorem Standard.selectOnly_eq_false {version : Version} {node : Query}
    (standard : Standard version node) (other : node.target ≠ .blockingPids) :
    node.selectOnly = false := by
  rw [standard.selectOnly]
  exact beq_eq_false_iff_ne.mpr other

theorem standard_view (version : Version) (view : View) :
    Standard version (view.query version) := by
  cases version <;> cases view <;> exact ⟨rfl, rfl⟩

theorem children_view (version : Version) (view : View) : (view.query version).children = [] := by
  rw [View.query]
  split <;> rfl

/-- What holds of the views and of the blocking process ids, whatever their filter and children,
    holds of every node of a tree that is put together from them. -/
theorem Gathered.forall_mem_nodes {sources : Version → Prop} {property : Query → Prop}
    (view : ∀ version, sources version → ∀ view : View, property (view.query version))
    (pids : property StatTree.blockingPids)
    (alike : ∀ a b : Query, a.target = b.target → a.columns = b.columns →
      a.selectOnly = b.selectOnly → property a → property b)
    {query : Query} (gathered : Gathered sources query) : ∀ node ∈ query.nodes, property node := by
  induction gathered with
  | @view version source ready =>
    refine Query.forall_mem_nodes (view version source ready) ?_
    rw [children_view]
    exact nofun
  | blockingPids => exact Query.forall_mem_nodes pids nofun
  | @withFilter query filter _ ih =>
    have self := ih query (mem_nodes_self query)
    exact Query.forall_mem_nodes (alike query _ rfl rfl rfl self)
      fun child hc node inner => ih node (mem_nodes_of_child hc inner)
  | @withChildren query children _ _ ih ihChildren =>
    have self := ih query (mem_nodes_self query)
    refine Query.forall_mem_nodes (alike query _ rfl rfl rfl self) fun child hc node inner => ?_
    rcases List.mem_append.mp hc with hc | hc
    · exact ih node (mem_nodes_of_child hc inner)
    · exact ihChildren child hc node inner

theorem standard_blockingPids (version : Version) : Standard version blockingPids := by
  cases version <;> exact ⟨rfl, rfl⟩

theorem Standard.alike {version : Version} {a b : Query} (target : a.target = b.target)
    (columns : a.columns = b.columns) (selectOnly : a.selectOnly = b.selectOnly)
    (standard : Standard version a) : Standard version b where
  columns := by rw [← columns, ← target, standard.columns]
  selectOnly := by rw [← selectOnly, ← target, standard.selectOnly]

theorem Gathered.exists_standard {sources : Version → Prop} {query : Query}
    (gathered : Gathered sources query) : ∀ node ∈ query.nodes,
      ∃ version, (sources version ∨ node.target = .blockingPids) ∧ Standard version node := by
  refine gathered.forall_mem_nodes ?_ ?_ ?_
  · intro version source view
    exact ⟨version, .inl source, standard_view version view⟩
  · exact ⟨.default, .inr rfl, standard_blockingPids _⟩
  · intro a b target columns selectOnly found
    obtain ⟨version, source, standard⟩ := found
    rw [target] at source
    exact ⟨version, source, standard.alike target columns selectOnly⟩

theorem Assembled.standard {version : Version} {query : Query}
    (assembled : Assembled version query) : ∀ node ∈ query.nodes, Standard version node := by
  refine assembled.gathered.forall_mem_nodes ?_ (standard_blockingPids version)
    fun _ _ => Standard.alike
  rintro _ rfl view
  exact standard_view _ view

end Query

end StatTree
