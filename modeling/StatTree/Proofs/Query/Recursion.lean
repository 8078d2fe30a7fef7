import StatTree.Proofs.Forall2
import StatTree.Proofs.Query.Signature

namespace StatTree.Query

theorem length_signature_lt_of_child {query child : Query} (hc : child ∈ query.children) :
    child.signature.length < query.signature.length := by
  have member : child.signature ∈ query.children.map signature := List.mem_map_of_mem hc
  have inner := Text.length_le_separated "," member
  have whole : query.signature = header query ++ "[" ++
      Text.separated "," (query.children.map signature) ++ "]" := by
    cases query
    rw [signature, signatures_eq]
    rfl
  have mark : ("]" : String).length = 1 := by decide
  rw [whole, String.length_append, String.length_append, mark]
  omega

theorem length_signature_lt {query node : Query} {path : List Nat}
    (found : query.at? path = some node) (proper : path ≠ []) :
    node.signature.length < query.signature.length := by
  induction path generalizing query with
  | nil => exact absurd rfl proper
  | cons index path ih =>
    obtain ⟨child, atIndex, below⟩ := at?_cons_eq_some.mp found
    have shorter := length_signature_lt_of_child (List.mem_of_getElem? atIndex)
    by_cases last : path = []
    · subst path
      cases below
      exact shorter
    · exact Nat.lt_trans (ih below last) shorter

theorem signature_ne_of_below {query a b : Query} {p q : List Nat} (atP : query.at? p = some a)
    (atQ : query.at? (p ++ q) = some b) (proper : q ≠ []) : a.signature ≠ b.signature := by
  rw [at?_append, atP, Option.bind_some] at atQ
  have shorter := length_signature_lt atQ proper
  intro same
  rw [same] at shorter
  exact Nat.lt_irrefl _ shorter

theorem exists_leaf (query : Query) :
    ∃ path leaf, query.at? path = some leaf ∧ leaf.children = [] := by
  induction query using node_induction with
  | node query ih =>
    cases below : query.children with
    | nil => exact ⟨[], query, rfl, below⟩
    | cons child rest =>
      obtain ⟨path, leaf, found, childless⟩ := ih child (by rw [below]; exact List.mem_cons_self)
      refine ⟨0 :: path, leaf, at?_cons_eq_some.mpr ⟨child, ?_, found⟩, childless⟩
      rw [below]
      rfl

theorem Same.exists_at? {a b node : Query} {path : List Nat} (same : Same a b)
    (found : a.at? path = some node) : ∃ other, b.at? path = some other ∧ Same node other := by
  induction path generalizing a b with
  | nil =>
    cases found
    exact ⟨b, rfl, same⟩
  | cons index path ih =>
    obtain ⟨child, atIndex, below⟩ := at?_cons_eq_some.mp found
    obtain ⟨_, _, _, _, children⟩ := same
    obtain ⟨other, atOther, sameChild⟩ := exists_getElem?_of_forall₂ children atIndex
    obtain ⟨last, found, sameLast⟩ := ih sameChild below
    exact ⟨last, at?_cons_eq_some.mpr ⟨other, atOther, found⟩, sameLast⟩

theorem Same.childless {a b : Query} (same : Same a b) (leaf : a.children = []) :
    b.children = [] := by
  obtain ⟨_, _, _, _, children⟩ := same
  rw [leaf] at children
  exact List.forall₂_nil_left_iff.mp children

theorem Same.of_childless {a b : Query} (target : a.target = b.target)
    (columns : a.columns.map ColumnList.name = b.columns.map ColumnList.name)
    (selectOnly : a.selectOnly = b.selectOnly) (filter : a.filter = b.filter)
    (leafA : a.children = []) (leafB : b.children = []) : Same a b := by
  refine .node target columns selectOnly filter ?_
  rw [leafA, leafB]
  exact .nil

theorem Readable.at? {query node : Query} {path : List Nat} (readable : Readable query)
    (found : query.at? path = some node) : Readable node := by
  induction path generalizing query with
  | nil =>
    cases found
    exact readable
  | cons index path ih =>
    obtain ⟨child, atIndex, below⟩ := at?_cons_eq_some.mp found
    exact ih (readable.child (List.mem_of_getElem? atIndex)) below

def TwinLeaves (root : Query) : Prop :=
  ∃ p q a b, p ≠ q ∧ root.at? p = some a ∧ root.at? q = some b ∧ a.children = [] ∧
    b.children = [] ∧ a.target = b.target ∧
    a.columns.map ColumnList.name = b.columns.map ColumnList.name ∧
    a.selectOnly = b.selectOnly ∧ a.filter = b.filter

/-- Two nodes with one signature have leaves with one signature at the same place below them. -/
theorem Same.twinLeaves {root a b : Query} {p q : List Nat} (same : Same a b) (apart : p ≠ q)
    (atP : root.at? p = some a) (atQ : root.at? q = some b) : TwinLeaves root := by
  obtain ⟨path, leaf, found, childless⟩ := exists_leaf a
  obtain ⟨other, foundOther, sameLeaf⟩ := same.exists_at? found
  have leafB := sameLeaf.childless childless
  obtain ⟨target, columns, selectOnly, filter, _⟩ := sameLeaf
  refine ⟨p ++ path, q ++ path, leaf, other, ?_, ?_, ?_, childless, leafB, target, columns,
    selectOnly, filter⟩
  · intro equal
    exact apart (List.append_cancel_right equal)
  · rw [at?_append, atP, Option.bind_some, found]
  · rw [at?_append, atQ, Option.bind_some, foundOther]

def Chain (query : Query) : Prop := ∀ node ∈ query.nodes, node.children.length ≤ 1

theorem Chain.distinct {query : Query} (chain : Chain query) : DistinctSignatures query := by
  induction query using node_induction with
  | node query ih =>
    -- Two nodes of a chain are one above the other, or below the same first child.
    have first : ∀ index child, query.children[index]? = some child → index = 0 := by
      intro index child found
      obtain ⟨bound, _⟩ := List.getElem?_eq_some_iff.mp found
      have few := chain query (mem_nodes_self query)
      omega
    intro p q a b atP atQ same
    cases p with
    | nil =>
      cases q with
      | nil => rfl
      | cons j q => exact absurd same (signature_ne_of_below atP atQ (List.cons_ne_nil j q))
    | cons i p =>
      cases q with
      | nil => exact absurd same.symm (signature_ne_of_below atQ atP (List.cons_ne_nil i p))
      | cons j q =>
        obtain ⟨left, atI, belowLeft⟩ := at?_cons_eq_some.mp atP
        obtain ⟨right, atJ, belowRight⟩ := at?_cons_eq_some.mp atQ
        have indexI := first i left atI
        have indexJ := first j right atJ
        subst i
        subst j
        cases Option.some.inj (atI.symm.trans atJ)
        have hc := List.mem_of_getElem? atI
        have below : Chain left := fun node member => chain node (mem_nodes_of_child hc member)
        rw [ih left hc below p q a b belowLeft belowRight same]

/-- A tree is refused as recursive exactly when childless nodes at two positions agree. A node and
    a node below it never have one signature, and a chain is never refused. -/
theorem isRecursive_iff_twinLeaves (root : Query) :
    (Built root → PlainNames root → (root.isRecursive = true ↔ TwinLeaves root)) ∧
      (∀ p q a b, root.at? p = some a → root.at? (p ++ q) = some b → q ≠ [] →
        a.signature ≠ b.signature) ∧
      (Chain root → root.isRecursive = false) := by
  refine ⟨?_, fun p q a b => signature_ne_of_below, ?_⟩
  · intro built plain
    have readable := built.readable plain
    rw [isRecursive_eq_true_iff]
    constructor
    · intro repeated
      obtain ⟨p, q, a, b, apart, atP, atQ, same⟩ := repeated
      have chars : a.signature.toList ++ [] = b.signature.toList ++ [] := by rw [same]
      obtain ⟨trees, _⟩ := signature_append_injective (readable.at? atP) (readable.at? atQ) chars
      exact trees.twinLeaves apart atP atQ
    · intro twins
      obtain ⟨p, q, a, b, apart, atP, atQ, leafA, leafB, target, columns, selectOnly, filter⟩ := twins
      have same := Same.of_childless target columns selectOnly filter leafA leafB
      exact ⟨p, q, a, b, apart, atP, atQ, same.signature_eq⟩
  · intro chain
    exact (isRecursive_eq_false_iff root).mpr chain.distinct

def sharedLocks : Query :=
  (reading .statDatabase ColumnList.Postgres13.statDatabase).withChildren
    [(reading .statActivity ColumnList.Postgres13.statActivity).withChild
        (reading .locks ColumnList.Postgres13.lock),
      (selecting .statActivity).withChild (reading .locks ColumnList.Postgres13.lock)]

def turns : Query :=
  (reading .locks ColumnList.Postgres13.lock).withChild
    ((reading .statActivity ColumnList.Postgres13.statActivity).withChild
      ((reading .locks ColumnList.Postgres13.lock).withChild
        (reading .statActivity ColumnList.Postgres13.statActivity)))

theorem sharedLocks_isRecursive :
    (Built sharedLocks ∧ PlainNames sharedLocks ∧ sharedLocks.isRecursive = true) ∧
      (∃ a b, turns.at? [0] = some a ∧ turns.at? [0, 0, 0] = some b ∧ a.target = b.target ∧
        a.signature ≠ b.signature) ∧
      Chain turns ∧ turns.isRecursive = false := by
  have built : Built sharedLocks := by
    refine .withChildren (.reading _ _) fun child member => ?_
    simp only [List.mem_cons, List.not_mem_nil, or_false] at member
    rcases member with rfl | rfl
    · refine .withChildren (.reading _ _) fun child member => ?_
      rw [List.mem_singleton.mp member]
      exact .reading _ _
    · refine .withChildren (.selecting _) fun child member => ?_
      rw [List.mem_singleton.mp member]
      exact .reading _ _
  have plain : PlainNames sharedLocks := by decide
  have twins : TwinLeaves sharedLocks :=
    ⟨[0, 0], [1, 0], _, _, by decide, rfl, rfl, rfl, rfl, rfl, rfl, rfl, rfl⟩
  have chain : Chain turns := by unfold Chain; decide
  obtain ⟨search, _, _⟩ := isRecursive_iff_twinLeaves sharedLocks
  obtain ⟨_, below, passes⟩ := isRecursive_iff_twinLeaves turns
  refine ⟨⟨built, plain, (search built plain).mpr twins⟩, ?_, chain, passes chain⟩
  exact ⟨_, _, rfl, rfl, rfl, below [0] [0, 0] _ _ rfl rfl (by decide)⟩

end StatTree.Query
