import StatTree.Proofs.Compile.FirstFailure
import StatTree.Proofs.Compile.Shape
import StatTree.Proofs.Views.MadeOf

namespace StatTree.Query

theorem Assembled.built {version : Version} {query : Query} (assembled : Assembled version query) :
    Built query := by
  induction assembled with
  | view view =>
    rw [View.query]
    split
    · exact .reading _ _
    · exact .unavailable _
  | blockingPids => exact .selecting _
  | withFilter filter _ ih => exact .withFilter filter ih
  | withChildren _ _ ih ihChildren => exact .withChildren ih ihChildren

theorem Assembled.readable {version : Version} {query : Query}
    (assembled : Assembled version query) : Readable query := by
  refine assembled.built.readable fun list member => ?_
  obtain ⟨node, inTree, found⟩ := List.mem_filterMap.mp member
  rw [(assembled.standard node inTree).columns] at found
  exact Target.plainName_of_columns list found

theorem Assembled.isValid_eq_false_iff {version : Version} {query : Query}
    (assembled : Assembled version query) :
    ∀ node ∈ query.nodes, (node.isValid = false ↔ node.target = .unspecified) := by
  refine assembled.gathered.forall_mem_nodes ?_ (by decide) ?_
  · intro version _ view
    cases version <;> cases view <;> decide
  · intro a b target columns selectOnly valid
    rw [isValid, target, columns, selectOnly] at valid
    exact valid

def leafKey (leaf : Query) : Target × Option String := (leaf.target, leaf.filter)

theorem Assembled.signature_eq_iff_leafKey_eq {version : Version} {root a b : Query}
    (assembled : Assembled version root) (memberA : a ∈ root.leaves) (memberB : b ∈ root.leaves) :
    a.signature = b.signature ↔ a.leafKey = b.leafKey := by
  obtain ⟨inTreeA, leafA⟩ := List.mem_filter.mp memberA
  obtain ⟨inTreeB, leafB⟩ := List.mem_filter.mp memberB
  have standardA := assembled.standard a inTreeA
  have standardB := assembled.standard b inTreeB
  have readableA := assembled.readable.of_mem_nodes inTreeA
  have readableB := assembled.readable.of_mem_nodes inTreeB
  rw [readableA.signature_eq_iff readableB]
  constructor
  · intro same
    obtain ⟨target, _, _, filter, _⟩ := same
    rw [leafKey, leafKey, target, filter]
  · intro same
    obtain ⟨target, filter⟩ := Prod.mk.inj same
    have columns : a.columns = b.columns := by
      rw [standardA.columns, standardB.columns, target]
    have selectOnly : a.selectOnly = b.selectOnly := by
      rw [standardA.selectOnly, standardB.selectOnly, target]
    exact .of_childless target (by rw [columns]) selectOnly filter (isLeaf_iff.mp leafA)
      (isLeaf_iff.mp leafB)

theorem Assembled.isRecursive_eq_false_iff {version : Version} {root : Query}
    (assembled : Assembled version root) :
    root.isRecursive = false ↔ (root.leaves.map leafKey).Nodup := by
  rw [assembled.readable.isRecursive_eq_false_iff, List.Nodup, List.Nodup, List.pairwise_map,
    List.pairwise_map]
  exact List.Pairwise.iff_of_mem fun memberA memberB =>
    not_congr (assembled.signature_eq_iff_leafKey_eq memberA memberB)

/-- The childless nodes that may share a target where no view is used twice. -/
def standIns (root : Query) : List Query :=
  root.leaves.filter fun leaf => leaf.target = .unspecified ∨ leaf.target = .blockingPids

theorem MadeOf.nodup_leaves_iff {version : Version} {views : List View} {root : Query}
    (made : MadeOf version views root) (once : views.Nodup) :
    (root.leaves.map leafKey).Nodup ↔ (root.standIns.map leafKey).Nodup := by
  constructor
  · exact (List.filter_sublist.map leafKey).nodup
  · intro distinct
    rw [List.Nodup, List.pairwise_map, List.pairwise_iff_forall_sublist] at distinct ⊢
    intro a b pair same
    have targets : a.target = b.target := (Prod.mk.inj same).1
    have shared := made.target_of_pair once (pair.trans List.filter_sublist) targets
    have kept := pair.filter fun leaf => leaf.target = .unspecified ∨ leaf.target = .blockingPids
    rw [List.filter_eq_self.mpr (by simp [← targets, shared])] at kept
    exact distinct kept same

def AvailableEdges (query : Query) : Prop :=
  ∀ node ∈ query.nodes, ∀ child ∈ node.children,
    node.target ≠ .unspecified → child.target ≠ .unspecified →
      (node.target, child.target) ∈ JoinRule.pairs ∨
        (node.target, child.target) = (.statActivity, .blockingPids)

instance (query : Query) : Decidable query.AvailableEdges :=
  inferInstanceAs (Decidable (∀ node ∈ query.nodes, ∀ child ∈ node.children,
    node.target ≠ .unspecified → child.target ≠ .unspecified → _ ∨ _))

theorem AvailableEdges.child {query child : Query} (edges : AvailableEdges query)
    (hc : child ∈ query.children) : AvailableEdges child :=
  fun node member => edges node (mem_nodes_of_child hc member)

theorem exists_missing_of_lower {query : Query} (edges : AvailableEdges query)
    (validity : ∀ node ∈ query.nodes, (node.isValid = false ↔ node.target = .unspecified))
    {cause : QueryError} (failed : query.lower = .error cause) :
    ∃ node ∈ query.nodes, node.target = .unspecified ∧
      cause.rootCause = .unsupportedTarget node.display := by
  have available : ∀ node ∈ query.nodes, node.isValid = true → node.target ≠ .unspecified := by
    intro node member valid missing
    rw [(validity node member).mpr missing] at valid
    cases valid
  induction query using node_induction generalizing cause with
  | node query ih =>
    have self := mem_nodes_self query
    cases valid : query.isValid with
    | false =>
      rw [lower_eq, valid, if_neg Bool.false_ne_true] at failed
      cases failed
      exact ⟨query, self, (validity query self).mp valid, rfl⟩
    | true =>
      rw [lower_eq, if_pos valid, map_eq_error_iff] at failed
      obtain ⟨_, child, inner, atIndex, found, rfl, _⟩ := exists_first_of_lowerChildren failed
      have hc := List.mem_of_getElem? atIndex
      have inTree := child_mem_nodes hc
      rcases contribution_eq_error found with ⟨refused, rfl⟩ | ⟨_, _, _, failed⟩
      -- The child is refused itself. It is not the edge that has no clause.
      · cases validChild : child.isValid with
        | false =>
          refine ⟨child, inTree, (validity child inTree).mp validChild, ?_⟩
          rw [edgeFault, validChild]
          rfl
        | true =>
          have pair := edges query self child hc (available query self valid)
            (available child inTree validChild)
          exact absurd ⟨validChild, pair⟩ refused
      · obtain ⟨node, below, missing, same⟩ := ih child hc (edges.child hc)
          (fun node below => validity node (mem_nodes_of_child hc below)) failed
          (fun node below => available node (mem_nodes_of_child hc below))
        exact ⟨node, mem_nodes_of_child hc below, missing, same⟩

theorem Assembled.not_lowers {version : Version} {root : Query}
    (assembled : Assembled version root)
    (missing : root.target = .unspecified ∨
      ∃ node, Lowered root node ∧ ∃ child ∈ node.children, child.target = .unspecified) :
    ¬∃ statement, root.lower = .ok statement := by
  intro lowers
  obtain ⟨valid, joinable⟩ := (exists_lower_iff root).mp lowers
  rcases missing with missing | ⟨node, low, child, hc, missing⟩
  · rw [(assembled.isValid_eq_false_iff root (mem_nodes_self root)).mpr missing] at valid
    cases valid
  · have invalid :=
      (assembled.isValid_eq_false_iff child (low.mem_nodes_of_child hc)).mpr missing
    have valid := (joinable node low child hc).1
    rw [invalid] at valid
    cases valid

/-- A tree in which no view is used twice fails for a view that its generation lacks, where it meets
    one, unless two missing views without children, or two reads of blocking process ids, have one
    filter: then it is refused as recursive. -/
theorem rootCause_of_missing {views : List View} {root : Query}
    (made : MadeOf .postgres9 views root) (once : views.Nodup) (edges : AvailableEdges root)
    (missing : root.target = .unspecified ∨
      ∃ node, Lowered root node ∧ ∃ child ∈ node.children, child.target = .unspecified) :
    ∃ cause, root.compile = .error cause ∧
      ((root.standIns.map leafKey).Nodup → ∃ node ∈ root.nodes, node.target = .unspecified ∧
        cause.rootCause = .unsupportedTarget node.display) ∧
      (¬(root.standIns.map leafKey).Nodup → cause = .mutualRecursion) := by
  have assembled := made.assembled
  have recursive : root.isRecursive = false ↔ (root.standIns.map leafKey).Nodup := by
    rw [assembled.isRecursive_eq_false_iff, made.nodup_leaves_iff once]
  rw [compile, assemble_eq_lower]
  by_cases alike : root.isRecursive
  · rw [if_pos alike]
    have repeated : ¬(root.standIns.map leafKey).Nodup := by
      rw [← recursive, alike]
      exact Bool.noConfusion
    exact ⟨.mutualRecursion, rfl, fun distinct => absurd distinct repeated, fun _ => rfl⟩
  · have distinct := recursive.mp (eq_false_of_ne_true alike)
    rw [if_neg alike]
    cases lowers : root.lower with
    | ok statement => exact absurd ⟨statement, lowers⟩ (assembled.not_lowers missing)
    | error cause =>
      exact ⟨cause, rfl,
        fun _ => exists_missing_of_lower edges assembled.isValid_eq_false_iff lowers,
        fun repeated => absurd distinct repeated⟩

def earlyActivity : Query :=
  (((View.statActivity.query .postgres9).withChild (View.locks.query .postgres9)).withChild
    (View.statGssapi.query .postgres9)).withChild
      ((View.statSubscription.query .postgres9).withFilter "subname = 'main'")

theorem earlyActivity_rootCause :
    MadeOf .postgres9 [.statActivity, .locks, .statGssapi, .statSubscription] earlyActivity ∧
      AvailableEdges earlyActivity ∧
      ∃ cause, earlyActivity.compile = .error cause ∧ ∃ node ∈ earlyActivity.nodes,
        node.target = .unspecified ∧ cause.rootCause = .unsupportedTarget node.display := by
  have made : MadeOf .postgres9 [.statActivity, .locks, .statGssapi, .statSubscription]
      earlyActivity :=
    .withChild (.withChild (.withChild (.view .statActivity) (.view .locks)) (.view .statGssapi))
      (.withFilter _ (.view .statSubscription))
  have edges : AvailableEdges earlyActivity := by decide +kernel
  have distinct : (earlyActivity.standIns.map leafKey).Nodup := by decide +kernel
  have missing : ∃ child ∈ earlyActivity.children, child.target = .unspecified :=
    ⟨View.statGssapi.query .postgres9, by simp [earlyActivity, withChild, withChildren], rfl⟩
  obtain ⟨cause, failed, unsupported, _⟩ :=
    rootCause_of_missing made (by decide) edges (.inr ⟨_, .self, missing⟩)
  exact ⟨made, edges, cause, failed, unsupported distinct⟩

def indistinctActivity : Query :=
  ((View.statActivity.query .postgres9).withChild (View.statGssapi.query .postgres9)).withChild
    (View.statSubscription.query .postgres9)

theorem indistinctActivity_compile :
    MadeOf .postgres9 [.statActivity, .statGssapi, .statSubscription] indistinctActivity ∧
      [View.statActivity, .statGssapi, .statSubscription].Nodup ∧
      AvailableEdges indistinctActivity ∧
      (∃ child ∈ indistinctActivity.children, child.target = .unspecified) ∧
      indistinctActivity.compile = .error .mutualRecursion ∧
      ∀ node, QueryError.rootCause .mutualRecursion ≠ .unsupportedTarget node := by
  refine ⟨?_, by decide, by decide +kernel, ?_, by decide +kernel, nofun⟩
  · exact .withChild (.withChild (.view .statActivity) (.view .statGssapi))
      (.view .statSubscription)
  · exact ⟨View.statGssapi.query .postgres9, List.mem_cons_self, rfl⟩

end StatTree.Query
