import StatTree.JoinRule

namespace StatTree.JoinRule

theorem find?_eq_some {parent child : Target} {found : JoinRule}
    (lookup : find? parent child = some found) :
    found ∈ registry ∧ found.parent = parent ∧ found.child = child := by
  have entry := List.find?_some lookup
  rw [Bool.and_eq_true, beq_iff_eq, beq_iff_eq] at entry
  exact ⟨List.mem_of_find?_eq_some lookup, entry⟩

theorem child_eq_of_asName_eq : ∀ first ∈ registry, ∀ second ∈ registry,
    first.parent.name = second.parent.name → first.asName = second.asName →
      first.child = second.child := by
  decide +kernel

end StatTree.JoinRule
