import StatTree.Proofs.Query.Leaves
import StatTree.Proofs.Views.Assembled

namespace StatTree

theorem Target.plainName_of_columns {target : Target} {version : Version} :
    ∀ list ∈ target.columns version, list.PlainName := by
  cases version <;> cases target <;> decide +kernel

theorem View.find?_target (view : View) :
    all.find? (fun other => other.target == view.target) = some view := by
  cases view <;> rfl

theorem View.target_injective {a b : View} (same : a.target = b.target) : a = b := by
  have found := find?_target a
  rw [same, find?_target b] at found
  exact (Option.some.inj found).symm

theorem View.target_query (view : View) (version : Version) :
    (view.query version).target =
      if (view.columns version).isSome then view.target else .unspecified := by
  rw [query]
  cases view.columns version <;> rfl

theorem View.eq_of_target_query_eq {version : Version} {a b : View}
    (same : (a.query version).target = (b.query version).target)
    (available : (b.query version).target ≠ .unspecified) : a = b := by
  rw [target_query, target_query] at same
  rw [target_query] at available
  by_cases hb : (b.columns version).isSome
  · rw [if_pos hb] at same available
    by_cases ha : (a.columns version).isSome
    · rw [if_pos ha] at same
      exact target_injective same
    · rw [if_neg ha] at same
      exact absurd same.symm available
  · rw [if_neg hb] at available
    exact absurd rfl available

theorem View.target_query_ne_blockingPids (view : View) (version : Version) :
    (view.query version).target ≠ .blockingPids := by
  cases version <;> cases view <;> decide

namespace Query

/-- The trees put together from the views in a list, each used as often as it stands there, and from
    blocking process ids. -/
inductive MadeOf (version : Version) : List View → Query → Prop
  | view (view : View) : MadeOf version [view] (view.query version)
  | blockingPids : MadeOf version [] blockingPids
  | withFilter {views : List View} {query : Query} (filter : String) :
    MadeOf version views query → MadeOf version views (query.withFilter filter)
  | withChild {views more : List View} {query child : Query} : MadeOf version views query →
    MadeOf version more child → MadeOf version (views ++ more) (query.withChild child)

theorem MadeOf.assembled {version : Version} {views : List View} {query : Query}
    (made : MadeOf version views query) : Assembled version query := by
  induction made with
  | view view => exact .view view
  | blockingPids => exact .blockingPids
  | withFilter filter _ ih => exact .withFilter filter ih
  | withChild _ _ ih ihChild => exact .withChildren ih (List.forall_mem_singleton.mpr ihChild)

theorem withChildren_nil (query : Query) : query.withChildren [] = query := by
  cases query
  rw [withChildren, List.append_nil]

theorem withChildren_cons (query child : Query) (rest : List Query) :
    query.withChildren (child :: rest) = (query.withChild child).withChildren rest := by
  simp [withChild, withChildren]

theorem exists_madeOf_withChildren {version : Version} {query : Query} {children : List Query}
    (self : ∃ views, MadeOf version views query)
    (each : ∀ child ∈ children, ∃ views, MadeOf version views child) :
    ∃ views, MadeOf version views (query.withChildren children) := by
  induction children generalizing query with
  | nil =>
    rw [withChildren_nil]
    exact self
  | cons child rest ih =>
    obtain ⟨views, made⟩ := self
    obtain ⟨⟨more, first⟩, others⟩ := List.forall_mem_cons.mp each
    rw [withChildren_cons]
    exact ih ⟨views ++ more, .withChild made first⟩ others

theorem assembled_iff_exists_madeOf {version : Version} {query : Query} :
    Assembled version query ↔ ∃ views, MadeOf version views query := by
  constructor
  · intro assembled
    induction assembled with
    | view view => exact ⟨[view], .view view⟩
    | blockingPids => exact ⟨[], .blockingPids⟩
    | withFilter filter _ ih =>
      obtain ⟨views, made⟩ := ih
      exact ⟨views, .withFilter filter made⟩
    | withChildren _ _ ih ihChildren => exact exists_madeOf_withChildren ih ihChildren
  · intro made
    obtain ⟨views, made⟩ := made
    exact made.assembled

def targets (query : Query) : List Target := query.nodes.map target

theorem targets_withFilter (query : Query) (filter : String) :
    (query.withFilter filter).targets = query.targets := by
  rw [targets, targets, nodes_eq, nodes_eq query, List.map_cons, List.map_cons]
  rfl

theorem targets_withChild (query child : Query) :
    (query.withChild child).targets = query.targets ++ child.targets := by
  rw [targets, targets, targets, nodes_eq, nodes_eq query]
  simp [withChild, withChildren]

theorem MadeOf.targets_eq {version : Version} {views : List View} {query : Query}
    (made : MadeOf version views query) :
    query.targets.filter (· ≠ .blockingPids) =
      views.map fun view => (view.query version).target := by
  induction made with
  | view view =>
    have alone : (view.query version).targets = [(view.query version).target] := by
      rw [targets, nodes_eq, children_view]
      rfl
    simp [alone, view.target_query_ne_blockingPids]
  | blockingPids => rfl
  | withFilter filter _ ih => rw [targets_withFilter, ih]
  | withChild _ _ ih ihChild =>
    rw [targets_withChild, List.filter_append, ih, ihChild, List.map_append]

theorem MadeOf.target_of_pair {version : Version} {views : List View} {query a b : Query}
    (made : MadeOf version views query) (once : views.Nodup)
    (pair : [a, b].Sublist query.nodes) (same : a.target = b.target) :
    a.target = .unspecified ∨ a.target = .blockingPids := by
  by_contra other
  obtain ⟨available, view⟩ := not_or.mp other
  have twice : [a.target, a.target].Sublist query.targets := by
    have both := pair.map target
    rw [List.map_cons, List.map_singleton, ← same] at both
    exact both
  -- The two targets stand among those of the views, and available views have targets of their own.
  have among := twice.filter (· ≠ .blockingPids)
  rw [made.targets_eq, List.filter_eq_self.mpr (by simp [view]), List.sublist_map_iff] at among
  obtain ⟨used, inViews, targets⟩ := among
  obtain ⟨first, rest, rfl, atFirst, others⟩ := List.map_eq_cons_iff.mp targets.symm
  obtain ⟨second, rest, rfl, atSecond, last⟩ := List.map_eq_cons_iff.mp others
  have views : first = second :=
    View.eq_of_target_query_eq (atFirst.trans atSecond.symm) (atSecond ▸ available)
  rw [List.map_eq_nil_iff.mp last, views] at inViews
  exact List.nodup_iff_sublist.mp once second inViews

end Query

end StatTree
