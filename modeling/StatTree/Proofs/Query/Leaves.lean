import Mathlib.Data.List.Flatten
import Mathlib.Data.List.Lex
import StatTree.Proofs.Query.Recursion

namespace StatTree.Query

def isLeaf (query : Query) : Bool := query.children.isEmpty

def leaves (query : Query) : List Query := query.nodes.filter isLeaf

theorem isLeaf_iff {query : Query} : query.isLeaf = true ↔ query.children = [] :=
  List.isEmpty_iff

theorem leaves_of_childless {query : Query} (childless : query.children = []) :
    query.leaves = [query] := by
  rw [leaves, nodes_eq, childless, List.flatMap_nil,
    List.filter_cons_of_pos (isLeaf_iff.mpr childless), List.filter_nil]

theorem leaves_of_children {query : Query} (parent : query.children ≠ []) :
    query.leaves = query.children.flatMap leaves := by
  have skipped : ¬query.isLeaf = true := fun leaf => parent (isLeaf_iff.mp leaf)
  rw [leaves, nodes_eq, List.filter_cons_of_neg skipped, List.filter_flatMap]
  rfl

theorem nodes_sublist_of_child {query child : Query} (hc : child ∈ query.children) :
    child.nodes.Sublist query.nodes := by
  have below : child.nodes.Sublist (query.children.flatMap nodes) :=
    List.sublist_flatten_of_mem (List.mem_map_of_mem hc)
  rw [nodes_eq query]
  exact below.cons query

theorem pair_sublist_of_lt {query left right : Query} {i j : Nat} (less : i < j)
    (atI : query.children[i]? = some left) (atJ : query.children[j]? = some right) :
    [left, right].Sublist query.children := by
  have each : query.children.Pairwise fun a b => [a, b].Sublist query.children :=
    List.pairwise_iff_forall_sublist.mpr fun pair => pair
  obtain ⟨boundI, rfl⟩ := List.getElem?_eq_some_iff.mp atI
  obtain ⟨boundJ, rfl⟩ := List.getElem?_eq_some_iff.mp atJ
  exact List.pairwise_iff_getElem.mp each i j boundI boundJ less

theorem pair_sublist_nodes {query a b : Query} {p q : List Nat} (before : List.Lex (· < ·) p q)
    (atP : query.at? p = some a) (atQ : query.at? q = some b) : [a, b].Sublist query.nodes := by
  induction before generalizing query with
  -- The first position is above the second.
  | nil =>
    cases atP
    obtain ⟨child, atIndex, below⟩ := at?_cons_eq_some.mp atQ
    have hc := List.mem_of_getElem? atIndex
    have inner := List.mem_flatMap.mpr ⟨child, hc, mem_nodes_iff.mpr ⟨_, below⟩⟩
    rw [nodes_eq]
    exact (List.singleton_sublist.mpr inner).cons_cons _
  -- Both are below one child.
  | cons _ ih =>
    obtain ⟨child, atIndex, belowP⟩ := at?_cons_eq_some.mp atP
    obtain ⟨other, atOther, belowQ⟩ := at?_cons_eq_some.mp atQ
    cases Option.some.inj (atIndex.symm.trans atOther)
    exact (ih belowP belowQ).trans (nodes_sublist_of_child (List.mem_of_getElem? atIndex))
  -- They part here, the first to an earlier child.
  | rel less =>
    obtain ⟨left, atI, belowP⟩ := at?_cons_eq_some.mp atP
    obtain ⟨right, atJ, belowQ⟩ := at?_cons_eq_some.mp atQ
    have inLeft : [a].Sublist left.nodes :=
      List.singleton_sublist.mpr (mem_nodes_iff.mpr ⟨_, belowP⟩)
    have inRight : [b].Sublist right.nodes :=
      List.singleton_sublist.mpr (mem_nodes_iff.mpr ⟨_, belowQ⟩)
    have rows : ([left, right].flatMap nodes).Sublist (query.children.flatMap nodes) :=
      (pair_sublist_of_lt less atI atJ).flatMap nodes
    rw [List.flatMap_cons, List.flatMap_singleton] at rows
    rw [nodes_eq]
    exact ((inLeft.append inRight).trans rows).cons query

theorem not_nodup_leaves {root a b : Query} {p q : List Nat} (before : List.Lex (· < ·) p q)
    (atP : root.at? p = some a) (atQ : root.at? q = some b) (leafA : a.children = [])
    (leafB : b.children = []) (same : a.signature = b.signature) :
    ¬(root.leaves.map signature).Nodup := by
  have pair := (pair_sublist_nodes before atP atQ).filter isLeaf
  rw [List.filter_cons_of_pos (isLeaf_iff.mpr leafA),
    List.filter_cons_of_pos (isLeaf_iff.mpr leafB), List.filter_nil] at pair
  have texts := pair.map signature
  rw [List.map_cons, List.map_singleton, same] at texts
  exact fun distinct => List.nodup_iff_sublist.mp distinct _ texts

theorem Readable.of_mem_nodes {root node : Query} (readable : Readable root)
    (member : node ∈ root.nodes) : Readable node := by
  obtain ⟨path, found⟩ := mem_nodes_iff.mp member
  exact readable.at? found

/-- A tree is refused as recursive exactly when two of its childless nodes have one signature. -/
theorem Readable.isRecursive_eq_false_iff {root : Query} (readable : Readable root) :
    root.isRecursive = false ↔ (root.leaves.map signature).Nodup := by
  rw [isRecursive_eq_false_iff_nodup]
  constructor
  · intro distinct
    exact (List.filter_sublist.map signature).nodup distinct
  · intro distinct
    by_contra repeated
    rw [← isRecursive_eq_false_iff_nodup, Bool.not_eq_false, isRecursive_eq_true_iff] at repeated
    obtain ⟨p, q, a, b, apart, atP, atQ, same⟩ := repeated
    have trees := ((readable.at? atP).signature_eq_iff (readable.at? atQ)).mp same
    obtain ⟨p, q, a, b, apart, atP, atQ, leafA, leafB, target, columns, selectOnly, filter⟩ :=
      trees.twinLeaves apart atP atQ
    have same := (Same.of_childless target columns selectOnly filter leafA leafB).signature_eq
    rcases lt_or_gt_of_ne apart with less | less
    · exact not_nodup_leaves less atP atQ leafA leafB same distinct
    · exact not_nodup_leaves less atQ atP leafB leafA same.symm distinct

end StatTree.Query
