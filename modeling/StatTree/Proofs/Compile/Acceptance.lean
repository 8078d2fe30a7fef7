import StatTree.Proofs.Compile.Levels
import StatTree.Proofs.Forall2

namespace StatTree

theorem JoinRule.mem_pairs_iff {parent child : Target} :
    (parent, child) ∈ pairs ↔ ∃ rule, find? parent child = some rule := by
  rw [← Option.isSome_iff_exists, find?, List.find?_isSome, pairs, List.mem_map]
  simp [Prod.ext_iff]

theorem JoinRule.find?_blockingPids : find? .statActivity .blockingPids = none := by decide

theorem JoinClause.find_eq_subquery_iff {parent child : Target} {rule : JoinRule} :
    find parent child = .ok (.subquery rule) ↔ JoinRule.find? parent child = some rule := by
  rw [find]
  by_cases special : parent = .statActivity ∧ child = .blockingPids
  · rw [if_pos special, special.1, special.2, JoinRule.find?_blockingPids]
    constructor <;> intro same <;> cases same
  · rw [if_neg special]
    cases JoinRule.find? parent child <;> simp

theorem JoinClause.exists_find_iff {parent child : Target} :
    (∃ clause, find parent child = .ok clause) ↔
      (parent, child) ∈ JoinRule.pairs ∨ (parent, child) = (.statActivity, .blockingPids) := by
  rw [JoinRule.mem_pairs_iff, Prod.mk.injEq, find]
  by_cases special : parent = .statActivity ∧ child = .blockingPids
  · simp [special]
  · rw [if_neg special]
    cases JoinRule.find? parent child <;> simp [special]

namespace Query

def trueJoin? (parent : Target) (child : Query) : Option JoinRule :=
  if child.selectOnly then none else JoinRule.find? parent child.target

/-- The nodes that become levels of the statement: the root, and below such a node the children that
    are neither select-only nor the blocking process ids of an activity. -/
inductive Lowered (root : Query) : Query → Prop
  | self : Lowered root root
  | child {node child : Query} : Lowered root node → child ∈ node.children →
    child.selectOnly = false → (node.target, child.target) ≠ (.statActivity, .blockingPids) →
    Lowered root child

def Joinable (parent : Target) (child : Query) : Prop :=
  child.isValid = true ∧ ((parent, child.target) ∈ JoinRule.pairs ∨
    (parent, child.target) = (.statActivity, .blockingPids))

theorem Lowered.trans {a b c : Query} (first : Lowered a b) (second : Lowered b c) :
    Lowered a c := by
  induction second with
  | self => exact first
  | child _ member only pair ih => exact .child ih member only pair

theorem Lowered.exists_at? {root node : Query} (low : Lowered root node) :
    ∃ path, root.at? path = some node := by
  induction low with
  | self => exact ⟨[], rfl⟩
  | @child node child _ member _ _ ih =>
    obtain ⟨path, found⟩ := ih
    obtain ⟨index, bound, rfl⟩ := List.getElem_of_mem member
    refine ⟨path ++ [index], ?_⟩
    rw [at?_append, found, Option.bind_some, at?_cons, List.getElem?_eq_getElem bound]
    rfl

theorem Lowered.of_trueJoin {root node child : Query} {rule : JoinRule} (low : Lowered root node)
    (member : child ∈ node.children) (joined : trueJoin? node.target child = some rule) :
    Lowered root child := by
  rw [trueJoin?] at joined
  by_cases only : child.selectOnly
  · rw [if_pos only] at joined
    cases joined
  · rw [if_neg only] at joined
    refine .child low member (eq_false_of_ne_true only) fun special => ?_
    obtain ⟨parent, target⟩ := Prod.mk.inj special
    rw [parent, target, JoinRule.find?_blockingPids] at joined
    cases joined

theorem Joinable.exists_trueJoin {parent : Target} {child : Query}
    (joinable : Joinable parent child) (only : child.selectOnly = false)
    (pair : (parent, child.target) ≠ (.statActivity, .blockingPids)) :
    ∃ rule, trueJoin? parent child = some rule := by
  obtain ⟨rule, found⟩ := JoinRule.mem_pairs_iff.mp (joinable.2.resolve_right pair)
  refine ⟨rule, ?_⟩
  rw [trueJoin?, only]
  exact found

theorem trueJoin?_of_subquery {parent : Target} {child : Query} {rule : JoinRule}
    (found : JoinClause.find parent child.target = .ok (.subquery rule)) :
    trueJoin? parent child = if child.selectOnly then none else some rule := by
  rw [trueJoin?, JoinClause.find_eq_subquery_iff.mp found]

theorem trueJoin?_of_selectOnly {parent : Target} {child : Query} {item : Sql.SelectItem}
    (found : JoinClause.find parent child.target = .ok (.selectOnly item)) :
    trueJoin? parent child = none := by
  rw [trueJoin?]
  split
  · rfl
  · cases joined : JoinRule.find? parent child.target with
    | none => rfl
    | some rule =>
      rw [JoinClause.find_eq_subquery_iff.mpr joined] at found
      cases found

theorem contribution_eq_ok_iff {parent : Target} {child : Query}
    {lowered : Except QueryError Sql.Select} {part : Contribution} :
    contribution parent child lowered = .ok part ↔ child.isValid = true ∧
      ∃ clause, JoinClause.find parent child.target = .ok clause ∧ part.item = clause.item ∧
        match trueJoin? parent child with
        | none => part.join = none
        | some rule => ∃ subquery, lowered = .ok subquery ∧ part.join = some ⟨rule, subquery⟩ := by
  obtain ⟨item, join⟩ := part
  rw [contribution]
  by_cases valid : child.isValid
  · rw [if_pos valid, and_iff_right valid]
    cases found : JoinClause.find parent child.target with
    | error cause =>
      simp [bind, Except.bind]
    | ok clause =>
      cases clause with
      | selectOnly only =>
        rw [trueJoin?_of_selectOnly found]
        simp [bind, Except.bind, JoinClause.item, eq_comm]
      | subquery rule =>
        rw [trueJoin?_of_subquery found]
        by_cases only : child.selectOnly
        · simp [bind, Except.bind, JoinClause.item, only, eq_comm]
        · rw [if_neg only]
          change (if child.selectOnly = true then _ else lowered.map _) = _ ↔ _
          rw [if_neg only, map_eq_ok_iff]
          constructor
          · intro joined
            obtain ⟨subquery, lowers, ⟨⟩⟩ := joined
            exact ⟨_, rfl, rfl, subquery, lowers, rfl⟩
          · intro joined
            obtain ⟨_, ⟨⟩, ⟨⟩, subquery, lowers, ⟨⟩⟩ := joined
            exact ⟨subquery, lowers, rfl⟩
  · rw [if_neg valid]
    refine ⟨fun same => ?_, fun accepted => absurd accepted.1 valid⟩
    cases same

theorem lowerChildren_eq_ok_iff {parent : Target} {children : List Query}
    {parts : List Contribution} :
    lowerChildren parent children = .ok parts ↔
      List.Forall₂ (fun child part => contribution parent child child.lower = .ok part)
        children parts := by
  induction children generalizing parts with
  | nil =>
    rw [lowerChildren, List.forall₂_nil_left_iff, Except.ok.injEq, eq_comm]
  | cons child rest ih =>
    rw [lowerChildren, List.forall₂_cons_left_iff, bind_eq_ok_iff]
    simp only [mapError_eq_ok_iff, bind_eq_ok_iff, ih, Except.ok.injEq]
    constructor
    · intro added
      obtain ⟨part, first, others, below, rfl⟩ := added
      exact ⟨part, others, first, below, rfl⟩
    · intro added
      obtain ⟨part, others, first, below, rfl⟩ := added
      exact ⟨part, first, others, below, rfl⟩

theorem lower_eq_ok_iff {query : Query} {statement : Sql.Select} :
    query.lower = .ok statement ↔ query.isValid = true ∧ ∃ parts,
      List.Forall₂ (fun child part => contribution query.target child child.lower = .ok part)
        query.children parts ∧ level query parts = statement := by
  rw [lower_eq]
  by_cases valid : query.isValid
  · rw [if_pos valid, map_eq_ok_iff, and_iff_right valid]
    simp only [lowerChildren_eq_ok_iff]
  · rw [if_neg valid]
    refine ⟨fun same => ?_, fun accepted => absurd accepted.1 valid⟩
    cases same

theorem exists_contribution_iff {parent : Target} {child : Query}
    {lowered : Except QueryError Sql.Select} :
    (∃ part, contribution parent child lowered = .ok part) ↔ Joinable parent child ∧
      ∀ rule, trueJoin? parent child = some rule → ∃ subquery, lowered = .ok subquery := by
  simp only [contribution_eq_ok_iff, Joinable, ← JoinClause.exists_find_iff]
  cases joined : trueJoin? parent child with
  | none =>
    constructor
    · intro added
      obtain ⟨part, valid, clause, found, _⟩ := added
      refine ⟨⟨valid, clause, found⟩, fun rule absent => ?_⟩
      cases absent
    · intro accepted
      obtain ⟨⟨valid, clause, found⟩, _⟩ := accepted
      exact ⟨⟨clause.item, none⟩, valid, clause, found, rfl, rfl⟩
  | some rule =>
    constructor
    · intro added
      obtain ⟨part, valid, clause, found, _, subquery, lowers, _⟩ := added
      exact ⟨⟨valid, clause, found⟩, fun _ _ => ⟨subquery, lowers⟩⟩
    · intro accepted
      obtain ⟨⟨valid, clause, found⟩, below⟩ := accepted
      obtain ⟨subquery, lowers⟩ := below rule rfl
      exact ⟨⟨clause.item, some ⟨rule, subquery⟩⟩, valid, clause, found, rfl, subquery, lowers, rfl⟩

theorem exists_lower_step_iff {query : Query} :
    (∃ statement, query.lower = .ok statement) ↔ query.isValid = true ∧
      ∀ child ∈ query.children, Joinable query.target child ∧
        ∀ rule, trueJoin? query.target child = some rule →
          ∃ statement, child.lower = .ok statement := by
  constructor
  · intro lowers
    obtain ⟨statement, lowers⟩ := lowers
    obtain ⟨valid, parts, each, _⟩ := lower_eq_ok_iff.mp lowers
    refine ⟨valid, fun child member => exists_contribution_iff.mp ?_⟩
    exact exists_forall₂_iff.mp ⟨parts, each⟩ child member
  · intro accepted
    obtain ⟨valid, each⟩ := accepted
    obtain ⟨parts, related⟩ := exists_forall₂_iff.mpr fun child member =>
      exists_contribution_iff.mpr (each child member)
    exact ⟨_, lower_eq_ok_iff.mpr ⟨valid, parts, related, rfl⟩⟩

theorem Lowered.exists_lower {root node : Query} (low : Lowered root node)
    (lowers : ∃ statement, root.lower = .ok statement) :
    ∃ statement, node.lower = .ok statement := by
  induction low with
  | self => exact lowers
  | child _ member only pair ih =>
    obtain ⟨joinable, below⟩ := (exists_lower_step_iff.mp ih).2 _ member
    obtain ⟨rule, joined⟩ := joinable.exists_trueJoin only pair
    exact below rule joined

theorem exists_lower_iff (root : Query) :
    (∃ statement, root.lower = .ok statement) ↔ root.isValid = true ∧
      ∀ node, Lowered root node → ∀ child ∈ node.children, Joinable node.target child := by
  constructor
  · intro lowers
    refine ⟨(exists_lower_step_iff.mp lowers).1, fun node low child member => ?_⟩
    exact ((exists_lower_step_iff.mp (low.exists_lower lowers)).2 child member).1
  · induction root using node_induction with
    | node root ih =>
      intro accepted
      obtain ⟨valid, each⟩ := accepted
      -- The lowered nodes of a joined child are lowered nodes of the whole tree.
      refine exists_lower_step_iff.mpr ⟨valid, fun child member => ?_⟩
      have joinable := each root .self child member
      refine ⟨joinable, fun rule joined => ?_⟩
      have low : Lowered root child := Lowered.self.of_trueJoin member joined
      exact ih child member ⟨joinable.1, fun node below => each node (low.trans below)⟩

theorem compile_eq_ok_iff {root : Query} {sql : String} :
    root.compile = .ok sql ↔ DistinctSignatures root ∧
      ∃ statement, root.lower = .ok statement ∧ statement.text = sql := by
  rw [compile, ← isRecursive_eq_false_iff, assemble_eq_lower]
  by_cases recursive : root.isRecursive
  · simp [recursive]
  · rw [if_neg recursive, map_eq_ok_iff, and_iff_right (eq_false_of_ne_true recursive)]

theorem exists_first_of_lowerChildren {parent : Target} {children : List Query}
    {cause : QueryError} (failed : lowerChildren parent children = .error cause) :
    ∃ index child inner, children[index]? = some child ∧
      contribution parent child child.lower = .error inner ∧
      cause = .joinFailed parent child.target inner ∧
      ∀ (earlier : Nat) (other : Query), earlier < index → children[earlier]? = some other →
        ∃ part, contribution parent other other.lower = .ok part := by
  induction children with
  | nil =>
    rw [lowerChildren] at failed
    cases failed
  | cons head rest ih =>
    rw [lowerChildren, bind_eq_error_iff, mapError_eq_error_iff] at failed
    rcases failed with ⟨inner, first, same⟩ | ⟨part, added, failed⟩
    · refine ⟨0, head, inner, rfl, first, same.symm, fun earlier other less => ?_⟩
      exact absurd less (Nat.not_lt_zero earlier)
    · rcases bind_eq_error_iff.mp failed with failed | ⟨parts, _, done⟩
      · obtain ⟨index, child, inner, atIndex, found, same, before⟩ := ih failed
        refine ⟨index + 1, child, inner, atIndex, found, same, ?_⟩
        intro earlier other less atEarlier
        cases earlier with
        | zero =>
          cases atEarlier
          exact ⟨part, mapError_eq_ok_iff.mp added⟩
        | succ earlier => exact before earlier other (Nat.lt_of_succ_lt_succ less) atEarlier
      · cases done

theorem lower_ne_mutualRecursion (query : Query) : query.lower ≠ .error .mutualRecursion := by
  intro failed
  rw [lower_eq] at failed
  by_cases valid : query.isValid
  · rw [if_pos valid, map_eq_error_iff] at failed
    obtain ⟨_, _, _, _, _, same, _⟩ := exists_first_of_lowerChildren failed
    cases same
  · rw [if_neg valid] at failed
    cases failed

/-- A tree compiles exactly when no two positions have one signature, its root is valid, and every
    child of a lowered node is valid and has a clause under that node. Two equal signatures are
    reported before anything else. -/
theorem exists_compile_iff (root : Query) :
    ((∃ sql, root.compile = .ok sql) ↔
      DistinctSignatures root ∧ root.isValid = true ∧
        ∀ node, Lowered root node → ∀ child ∈ node.children,
          child.isValid = true ∧ ((node.target, child.target) ∈ JoinRule.pairs ∨
            (node.target, child.target) = (.statActivity, .blockingPids))) ∧
      (root.compile = .error .mutualRecursion ↔ ¬DistinctSignatures root) := by
  refine ⟨⟨?_, ?_⟩, ?_⟩
  · intro compiles
    obtain ⟨sql, compiled⟩ := compiles
    obtain ⟨distinct, statement, lowers, _⟩ := compile_eq_ok_iff.mp compiled
    exact ⟨distinct, (exists_lower_iff root).mp ⟨statement, lowers⟩⟩
  · intro accepted
    obtain ⟨distinct, accepted⟩ := accepted
    obtain ⟨statement, lowers⟩ := (exists_lower_iff root).mpr accepted
    exact ⟨_, compile_eq_ok_iff.mpr ⟨distinct, statement, lowers, rfl⟩⟩
  · rw [compile, ← isRecursive_eq_false_iff, assemble_eq_lower]
    by_cases recursive : root.isRecursive
    · simp [recursive]
    · rw [if_neg recursive, eq_false_of_ne_true recursive]
      cases lowers : root.lower with
      | error cause =>
        have other : cause ≠ .mutualRecursion := by
          rintro rfl
          exact lower_ne_mutualRecursion root lowers
        simpa [Except.map] using other
      | ok statement => simp [Except.map]

end Query

end StatTree
