import StatTree.Proofs.Compile.Acceptance

namespace StatTree

theorem JoinClause.eq_unsupportedJoin_of_find {parent child : Target} {cause : QueryError}
    (failed : find parent child = .error cause) : cause = .unsupportedJoin parent child := by
  rw [find] at failed
  split at failed
  · cases failed
  · split at failed
    · cases failed
    · exact (Except.error.inj failed).symm

namespace Query

def LoweredAt (root : Query) : List Nat → Query → Prop
  | [], node => node = root
  | index :: path, node => ∃ child, root.children[index]? = some child ∧
    child.selectOnly = false ∧ (root.target, child.target) ≠ (.statActivity, .blockingPids) ∧
    child.LoweredAt path node

/-- Positions in the order of a walk: a node comes before all that is below it, and all that is
    below a child before the next child. -/
def Precedes (path other : List Nat) : Prop := List.Lex (· < ·) path other

/-- The edge to the position, from a lowered node to a child that cannot be joined under it. -/
def FailingEdge (root : Query) (path : List Nat) (parent child : Query) : Prop :=
  ∃ front index, path = front ++ [index] ∧ root.LoweredAt front parent ∧
    parent.children[index]? = some child ∧ ¬Joinable parent.target child

structure FirstFailingEdge (root : Query) (path : List Nat) (parent child : Query) : Prop where
  fails : FailingEdge root path parent child
  first : ∀ other node below, FailingEdge root other node below → path = other ∨ Precedes path other

def edges (root : Query) : List Nat → List (Query × Query)
  | [] => []
  | index :: path =>
    match root.children[index]? with
    | some child => (root, child) :: child.edges path
    | none => []

def edgeFault (parent : Target) (child : Query) : QueryError :=
  if child.isValid then .unsupportedJoin parent child.target else .unsupportedTarget child.display

def joinsFailed (edges : List (Query × Query)) (fault : QueryError) : QueryError :=
  edges.foldr (fun edge inner => .joinFailed edge.1.target edge.2.target inner) fault

theorem rootCause_joinsFailed (edges : List (Query × Query)) (fault : QueryError) :
    (joinsFailed edges fault).rootCause = fault.rootCause := by
  induction edges with
  | nil => rfl
  | cons edge rest ih => exact ih

theorem rootCause_edgeFault (parent : Target) (child : Query) :
    (edgeFault parent child).rootCause = edgeFault parent child := by
  rw [edgeFault]
  split <;> rfl

theorem LoweredAt.lowered {root node : Query} {path : List Nat} (low : root.LoweredAt path node) :
    Lowered root node := by
  induction path generalizing root with
  | nil =>
    cases low
    exact .self
  | cons index path ih =>
    obtain ⟨child, atIndex, only, pair, below⟩ := low
    have member := List.mem_of_getElem? atIndex
    exact (Lowered.child .self member only pair).trans (ih below)

theorem failingEdge_cons_iff {root parent child : Query} {index : Nat} {path : List Nat} :
    FailingEdge root (index :: path) parent child ↔
      (path = [] ∧ parent = root ∧ root.children[index]? = some child ∧
        ¬Joinable root.target child) ∨
      ∃ next, root.children[index]? = some next ∧ next.selectOnly = false ∧
        (root.target, next.target) ≠ (.statActivity, .blockingPids) ∧
        FailingEdge next path parent child := by
  constructor
  · intro fails
    obtain ⟨front, last, split, low, atLast, refused⟩ := fails
    cases front with
    | nil =>
      obtain ⟨rfl, rfl⟩ := List.cons.inj split
      cases low
      exact .inl ⟨rfl, rfl, atLast, refused⟩
    | cons step front =>
      obtain ⟨rfl, rfl⟩ := List.cons.inj split
      obtain ⟨next, atIndex, only, pair, below⟩ := low
      exact .inr ⟨next, atIndex, only, pair, front, last, rfl, below, atLast, refused⟩
  · intro fails
    rcases fails with ⟨rfl, rfl, atIndex, refused⟩ | ⟨next, atIndex, only, pair, fails⟩
    · exact ⟨[], index, rfl, rfl, atIndex, refused⟩
    · obtain ⟨front, last, rfl, low, atLast, refused⟩ := fails
      exact ⟨index :: front, last, rfl, ⟨next, atIndex, only, pair, low⟩, atLast, refused⟩

theorem FailingEdge.ne_nil {root parent child : Query} {path : List Nat}
    (fails : FailingEdge root path parent child) : path ≠ [] := by
  obtain ⟨front, index, rfl, _⟩ := fails
  exact List.append_ne_nil_of_right_ne_nil front (List.cons_ne_nil index [])

theorem FailingEdge.not_lowers {root parent child : Query} {path : List Nat}
    (fails : FailingEdge root path parent child) : ¬∃ statement, root.lower = .ok statement := by
  intro lowers
  obtain ⟨front, index, _, low, atIndex, refused⟩ := fails
  exact refused (((exists_lower_iff root).mp lowers).2 parent low.lowered child
    (List.mem_of_getElem? atIndex))

theorem FailingEdge.edges_eq {root parent child : Query} {path : List Nat}
    (fails : FailingEdge root path parent child) :
    ∃ above, root.edges path = above ++ [(parent, child)] ∧
      ∀ edge ∈ root.edges path, Lowered root edge.1 := by
  induction path generalizing root with
  | nil => exact absurd rfl fails.ne_nil
  | cons index path ih =>
    rcases failingEdge_cons_iff.mp fails with
      ⟨rfl, rfl, atIndex, _⟩ | ⟨next, atIndex, only, pair, below⟩
    · have whole : parent.edges [index] = [(parent, child)] := by rw [edges, atIndex]; rfl
      refine ⟨[], whole, fun edge member => ?_⟩
      rw [whole, List.mem_singleton] at member
      rw [member]
      exact .self
    · have whole : root.edges (index :: path) = (root, next) :: next.edges path := by
        rw [edges, atIndex]
      obtain ⟨above, same, lowered⟩ := ih below
      refine ⟨(root, next) :: above, by rw [whole, same]; rfl, fun edge member => ?_⟩
      rw [whole, List.mem_cons] at member
      rcases member with rfl | member
      · exact .self
      · have step : Lowered root next :=
          .child .self (List.mem_of_getElem? atIndex) only pair
        exact step.trans (lowered edge member)

theorem contribution_eq_error {parent : Target} {child : Query}
    {lowered : Except QueryError Sql.Select} {inner : QueryError}
    (failed : contribution parent child lowered = .error inner) :
    (¬Joinable parent child ∧ inner = edgeFault parent child) ∨
      (Joinable parent child ∧ child.selectOnly = false ∧
        (parent, child.target) ≠ (.statActivity, .blockingPids) ∧ lowered = .error inner) := by
  rw [contribution] at failed
  by_cases valid : child.isValid
  · rw [if_pos valid] at failed
    cases found : JoinClause.find parent child.target with
    | error cause =>
      rw [found] at failed
      have refused : ¬Joinable parent child := by
        intro joinable
        obtain ⟨clause, other⟩ := JoinClause.exists_find_iff.mpr joinable.2
        rw [found] at other
        cases other
      refine .inl ⟨refused, ?_⟩
      rw [edgeFault, if_pos valid, ← JoinClause.eq_unsupportedJoin_of_find found]
      exact (Except.error.inj failed).symm
    | ok clause =>
      have joinable : Joinable parent child :=
        ⟨valid, JoinClause.exists_find_iff.mp ⟨clause, found⟩⟩
      rw [found] at failed
      cases clause with
      | selectOnly item => cases failed
      | subquery rule =>
        change (if child.selectOnly = true then _ else lowered.map _) = _ at failed
        by_cases only : child.selectOnly
        · rw [if_pos only] at failed
          cases failed
        · rw [if_neg only, map_eq_error_iff] at failed
          refine .inr ⟨joinable, eq_false_of_ne_true only, ?_, failed⟩
          intro special
          obtain ⟨activity, blocking⟩ := Prod.mk.inj special
          rw [activity, blocking] at found
          cases found
  · rw [if_neg valid] at failed
    refine .inl ⟨fun joinable => valid joinable.1, ?_⟩
    rw [edgeFault, if_neg valid]
    exact (Except.error.inj failed).symm

theorem FailingEdge.not_contribution {root child parent below : Query} {index : Nat}
    {path : List Nat} (atIndex : root.children[index]? = some child)
    (fails : FailingEdge root (index :: path) parent below) :
    ¬∃ part, contribution root.target child child.lower = .ok part := by
  intro added
  obtain ⟨joinable, lowers⟩ := exists_contribution_iff.mp added
  rcases failingEdge_cons_iff.mp fails with ⟨_, _, atBelow, refused⟩ | ⟨next, atNext, only, pair, fails⟩
  · cases atIndex.symm.trans atBelow
    exact refused joinable
  · cases atIndex.symm.trans atNext
    obtain ⟨rule, joined⟩ := joinable.exists_trueJoin only pair
    exact fails.not_lowers (lowers rule joined)

theorem FailingEdge.index_le {root parent child : Query} {index step : Nat} {path : List Nat}
    (before : ∀ (earlier : Nat) (other : Query), earlier < index →
      root.children[earlier]? = some other →
        ∃ part, contribution root.target other other.lower = .ok part)
    (fails : FailingEdge root (step :: path) parent child) : index ≤ step := by
  refine Nat.le_of_not_lt fun less => ?_
  have there : ∃ other, root.children[step]? = some other := by
    rcases failingEdge_cons_iff.mp fails with ⟨_, _, atStep, _⟩ | ⟨next, atStep, _⟩
    · exact ⟨child, atStep⟩
    · exact ⟨next, atStep⟩
  obtain ⟨other, atStep⟩ := there
  exact fails.not_contribution atStep (before step other less atStep)

theorem FirstFailingEdge.here {root child : Query} {index : Nat}
    (atIndex : root.children[index]? = some child) (refused : ¬Joinable root.target child)
    (before : ∀ (earlier : Nat) (other : Query), earlier < index →
      root.children[earlier]? = some other →
        ∃ part, contribution root.target other other.lower = .ok part) :
    FirstFailingEdge root [index] root child := by
  refine ⟨failingEdge_cons_iff.mpr (.inl ⟨rfl, rfl, atIndex, refused⟩), ?_⟩
  intro other node below fails
  cases other with
  | nil => exact absurd rfl fails.ne_nil
  | cons step path =>
    rcases Nat.lt_or_eq_of_le (fails.index_le before) with less | rfl
    · exact .inr (.rel less)
    · cases path with
      | nil => exact .inl rfl
      | cons next path => exact .inr (.cons .nil)

theorem FirstFailingEdge.below {root next parent child : Query} {index : Nat} {path : List Nat}
    (atIndex : root.children[index]? = some next) (joinable : Joinable root.target next)
    (only : next.selectOnly = false)
    (pair : (root.target, next.target) ≠ (.statActivity, .blockingPids))
    (before : ∀ (earlier : Nat) (other : Query), earlier < index →
      root.children[earlier]? = some other →
        ∃ part, contribution root.target other other.lower = .ok part)
    (inner : FirstFailingEdge next path parent child) :
    FirstFailingEdge root (index :: path) parent child := by
  refine ⟨failingEdge_cons_iff.mpr (.inr ⟨next, atIndex, only, pair, inner.fails⟩), ?_⟩
  intro other node below fails
  cases other with
  | nil => exact absurd rfl fails.ne_nil
  | cons step rest =>
    rcases Nat.lt_or_eq_of_le (fails.index_le before) with less | rfl
    · exact .inr (.rel less)
    · rcases failingEdge_cons_iff.mp fails with
        ⟨_, _, atStep, refused⟩ | ⟨other, atStep, _, _, fails⟩
      · cases atIndex.symm.trans atStep
        exact absurd joinable refused
      · cases atIndex.symm.trans atStep
        rcases inner.first rest node below fails with rfl | earlier
        · exact .inl rfl
        · exact .inr (.cons earlier)

theorem exists_firstFailingEdge_of_lower {query : Query} (valid : query.isValid = true)
    {cause : QueryError} (failed : query.lower = .error cause) :
    ∃ path parent child, FirstFailingEdge query path parent child ∧
      cause = joinsFailed (query.edges path) (edgeFault parent.target child) := by
  induction query using node_induction generalizing cause with
  | node query ih =>
    rw [lower_eq, if_pos valid, map_eq_error_iff] at failed
    obtain ⟨index, child, inner, atIndex, found, rfl, before⟩ :=
      exists_first_of_lowerChildren failed
    -- The edge to the child fails, or all edges down to the child pass and one below it fails.
    rcases contribution_eq_error found with ⟨refused, rfl⟩ | ⟨joinable, only, pair, failed⟩
    · refine ⟨[index], query, child, .here atIndex refused before, ?_⟩
      rw [edges, atIndex]
      rfl
    · obtain ⟨path, parent, last, first, rfl⟩ :=
        ih child (List.mem_of_getElem? atIndex) joinable.1 failed
      refine ⟨index :: path, parent, last, .below atIndex joinable only pair before first, ?_⟩
      rw [edges, atIndex]
      rfl

/-- A tree whose signatures differ fails for an invalid root as it is, and else for the first
    failing edge in the order of a walk, within a failed join for every edge on the way to it. -/
theorem compile_error_eq_joinsFailed {root : Query} {cause : QueryError}
    (distinct : DistinctSignatures root) (failed : root.compile = .error cause) :
    (root.isValid = false → cause = .unsupportedTarget root.display) ∧
      (root.isValid = true → ∃ path above parent child,
        FirstFailingEdge root path parent child ∧
        root.edges path = above ++ [(parent, child)] ∧
        (∀ edge ∈ root.edges path, Lowered root edge.1) ∧
        cause = (root.edges path).foldr
          (fun edge inner => .joinFailed edge.1.target edge.2.target inner) cause.rootCause ∧
        cause.rootCause = if child.isValid then .unsupportedJoin parent.target child.target
          else .unsupportedTarget child.display) := by
  rw [compile, (isRecursive_eq_false_iff root).mpr distinct, if_neg Bool.false_ne_true,
    assemble_eq_lower] at failed
  have lowers : root.lower = .error cause := map_eq_error_iff.mp failed
  constructor
  · intro invalid
    rw [lower_eq, if_neg (by rw [invalid]; exact Bool.false_ne_true)] at lowers
    exact (Except.error.inj lowers).symm
  · intro valid
    obtain ⟨path, parent, child, first, rfl⟩ := exists_firstFailingEdge_of_lower valid lowers
    obtain ⟨above, ends, lowered⟩ := first.fails.edges_eq
    refine ⟨path, above, parent, child, first, ends, lowered, ?_, ?_⟩
    · rw [rootCause_joinsFailed, rootCause_edgeFault]
      rfl
    · rw [rootCause_joinsFailed, rootCause_edgeFault]
      rfl

def brokenActivity : Query :=
  (reading .statActivity ⟨"Activity", "pg_stat_activity", ["pid"]⟩).withChildren
    [selecting .blockingPids,
      (reading .locks ⟨"Lock", "pg_locks", ["pid"]⟩).withChild
        (reading .statSsl ⟨"Ssl", "pg_stat_ssl", ["pid"]⟩),
      unavailable .statGssapi]

theorem brokenActivity_compile :
    DistinctSignatures brokenActivity ∧ brokenActivity.isValid = true ∧
      brokenActivity.compile = .error (.joinFailed .statActivity .locks
        (.joinFailed .locks .statSsl (.unsupportedJoin .locks .statSsl))) ∧
      ∃ path parent child, FirstFailingEdge brokenActivity path parent child ∧
        parent.target = .locks ∧ child.target = .statSsl := by
  have distinct : DistinctSignatures brokenActivity :=
    (isRecursive_eq_false_iff brokenActivity).mp (by decide +kernel)
  have failed : brokenActivity.compile = .error (.joinFailed .statActivity .locks
      (.joinFailed .locks .statSsl (.unsupportedJoin .locks .statSsl))) := by rfl
  obtain ⟨path, _, parent, child, first, _, _, _, fault⟩ :=
    (compile_error_eq_joinsFailed distinct failed).2 rfl
  refine ⟨distinct, rfl, failed, path, parent, child, first, ?_⟩
  by_cases valid : child.isValid
  · rw [if_pos valid] at fault
    obtain ⟨above, below⟩ := QueryError.unsupportedJoin.inj fault
    exact ⟨above.symm, below.symm⟩
  · rw [if_neg valid] at fault
    cases fault

end Query

end StatTree
