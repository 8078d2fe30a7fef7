import Mathlib.Data.List.Perm.Basic
import StatTree.Proofs.Query.Leaves

namespace StatTree.Query

/-- The second tree is the first with the children of any of its nodes in another order. -/
inductive Reordered : Query → Query → Prop
  | node {a b : Query} {order : List Query} (target : a.target = b.target)
    (columns : a.columns = b.columns) (selectOnly : a.selectOnly = b.selectOnly)
    (filter : a.filter = b.filter) (children : List.Forall₂ Reordered a.children order)
    (moved : order.Perm b.children) : Reordered a b

theorem Reordered.refl (query : Query) : Reordered query query := by
  induction query using node_induction with
  | node query ih => exact .node rfl rfl rfl rfl (List.forall₂_same.mpr ih) (.refl _)

theorem Reordered.symm {a b : Query} (same : Reordered a b) : Reordered b a := by
  induction a using node_induction generalizing b with
  | node a ih =>
    obtain ⟨target, columns, selectOnly, filter, children, moved⟩ := same
    have back := (mem_and_mem_of_forall₂ children).imp fun child other found =>
      show flip Reordered child other from ih child found.1 found.2.2
    obtain ⟨order, children, moved⟩ := List.perm_comp_forall₂ moved.symm back.flip
    exact .node target.symm columns.symm selectOnly.symm filter.symm children moved

theorem Reordered.exists_child {a b child : Query} (same : Reordered a b)
    (member : child ∈ b.children) : ∃ other ∈ a.children, Reordered other child := by
  obtain ⟨_, _, _, _, children, moved⟩ := same
  exact exists_mem_left_of_forall₂ children (moved.mem_iff.mpr member)

theorem Reordered.isValid_eq {a b : Query} (same : Reordered a b) : a.isValid = b.isValid := by
  obtain ⟨target, columns, selectOnly, _, _, _⟩ := same
  rw [isValid, isValid, target, columns, selectOnly]

theorem Reordered.eq_of_childless {a b : Query} (same : Reordered a b) (leaf : a.children = []) :
    a = b := by
  obtain ⟨target, columns, selectOnly, filter, children, moved⟩ := same
  rw [leaf, List.forall₂_nil_left_iff] at children
  rw [children, List.nil_perm] at moved
  cases a
  cases b
  simp_all

theorem Reordered.length_children_eq {a b : Query} (same : Reordered a b) :
    a.children.length = b.children.length := by
  obtain ⟨_, _, _, _, children, moved⟩ := same
  rw [children.length_eq, moved.length_eq]

theorem flatMap_leaves_perm {as bs : List Query} (each : List.Forall₂ Reordered as bs)
    (trees : ∀ a ∈ as, ∀ b, Reordered a b → a.leaves.Perm b.leaves) :
    (as.flatMap leaves).Perm (bs.flatMap leaves) := by
  induction each with
  | nil => exact .refl _
  | @cons a b as bs first _ ih =>
    rw [List.flatMap_cons, List.flatMap_cons]
    refine (trees a List.mem_cons_self b first).append (ih fun other member => ?_)
    exact trees other (List.mem_cons_of_mem _ member)

theorem Reordered.leaves_perm {a b : Query} (same : Reordered a b) : a.leaves.Perm b.leaves := by
  induction a using node_induction generalizing b with
  | node a ih =>
    by_cases leaf : a.children = []
    · rw [same.eq_of_childless leaf]
    · have parent : b.children ≠ [] := by
        rw [← List.length_pos_iff, ← same.length_children_eq, List.length_pos_iff]
        exact leaf
      obtain ⟨_, _, _, _, children, moved⟩ := same
      rw [leaves_of_children leaf, leaves_of_children parent]
      refine (flatMap_leaves_perm children fun child member other => ih child member).trans ?_
      exact moved.flatMap_right leaves

theorem Reordered.readable {a b : Query} (same : Reordered a b) (readable : Readable a) :
    Readable b := by
  induction b using node_induction generalizing a with
  | node b ih =>
    refine forall_mem_nodes ?_ fun child member node below => ?_
    · obtain ⟨plain, filled⟩ := readable a (mem_nodes_self a)
      obtain ⟨_, columns, _, filter, _, _⟩ := same
      rw [← columns, ← filter]
      exact ⟨plain, filled⟩
    · obtain ⟨other, inFirst, inner⟩ := same.exists_child member
      exact ih child member inner (readable.child inFirst) node below

theorem Reordered.isRecursive_eq {a b : Query} (same : Reordered a b) (readable : Readable a) :
    a.isRecursive = b.isRecursive := by
  rw [Bool.eq_iff_iff, ← not_iff_not, Bool.not_eq_true, Bool.not_eq_true,
    readable.isRecursive_eq_false_iff, (same.readable readable).isRecursive_eq_false_iff]
  exact (same.leaves_perm.map signature).nodup_iff

end StatTree.Query
