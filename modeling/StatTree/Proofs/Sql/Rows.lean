import StatTree.Proofs.Blocks
import StatTree.Sql.Rows

namespace StatTree

variable {α : Type}

namespace Sql

theorem groupsBy_flatMap_block {β γ κ : Type} [BEq κ] [LawfulBEq κ] {key : γ → κ} {name : β → κ}
    {block : β → List γ} {xs : List β} (keys : ∀ x ∈ xs, ∀ y ∈ block x, key y = name x)
    (filled : ∀ x ∈ xs, block x ≠ []) (distinct : xs.Pairwise fun a b => name a ≠ name b) :
    groupsBy key (xs.flatMap block) = xs.map block := by
  rw [groupsBy, eraseDups_map_flatMap keys filled distinct, List.map_map]
  refine List.map_congr_left fun x member => ?_
  have same : ∀ other ∈ xs, ∀ y ∈ block other, (key y == name x) = (name other == name x) :=
    fun other inside y inBlock => by rw [keys other inside y inBlock]
  rw [Function.comp_apply, filter_flatMap_block same, filter_name_eq_singleton distinct member,
    List.flatMap_singleton]

def offered (matching : List (Record α)) : List (Option (Record α)) :=
  if matching.isEmpty then [none] else matching.map some

theorem length_offered (matching : List (Record α)) :
    (offered matching).length = max 1 matching.length := by
  cases matching with
  | nil => rfl
  | cons row rest => simp [offered]

namespace Scope

theorem row?_bind_self (scope : Scope α) (asName : String) (row : Option (Record α)) :
    (scope.bind asName row).row? asName = row := by
  simp [row?, bind]

theorem row?_bind_of_ne (scope : Scope α) {asName other : String} (row : Option (Record α))
    (apart : other ≠ asName) : (scope.bind asName row).row? other = scope.row? other := by
  have different : (other == asName) = false := beq_false_of_ne apart
  simp [row?, bind, List.lookup_cons, different]

def extended (scope : Scope α) : List (String × List (Option (Record α))) → List (Scope α)
  | [] => [scope]
  | (asName, offers) :: rest => offers.flatMap fun row => (scope.bind asName row).extended rest

section

variable {scope extension : Scope α} {aliases : List (String × List (Option (Record α)))}

theorem alone_of_mem_extended (member : extension ∈ scope.extended aliases) :
    extension.alone = scope.alone := by
  induction aliases generalizing scope with
  | nil => rw [List.mem_singleton.mp member]
  | cons entry rest ih =>
    obtain ⟨row, _, inside⟩ := List.mem_flatMap.mp member
    exact (ih inside).trans rfl

theorem row?_of_mem_extended {asName : String} (member : extension ∈ scope.extended aliases)
    (fresh : asName ∉ aliases.map Prod.fst) : extension.row? asName = scope.row? asName := by
  induction aliases generalizing scope with
  | nil => rw [List.mem_singleton.mp member]
  | cons entry rest ih =>
    obtain ⟨row, _, inside⟩ := List.mem_flatMap.mp member
    rw [List.map_cons, List.mem_cons, not_or] at fresh
    rw [ih inside fresh.2, row?_bind_of_ne _ _ fresh.1]

theorem length_extended (scope : Scope α) (aliases : List (String × List (Option (Record α)))) :
    (scope.extended aliases).length = (aliases.map fun entry => entry.2.length).prod := by
  induction aliases generalizing scope with
  | nil => rfl
  | cons entry rest ih => simp [extended, List.length_flatMap, ih]

/-- All that is offered under an alias stands there as often as there are combinations of what is
    offered under the other ones. -/
theorem map_row?_extended {asName : String} (scope : Scope α)
    {before after : List (String × List (Option (Record α)))} (offers : List (Option (Record α)))
    (fresh : asName ∉ after.map Prod.fst) :
    (((scope.extended (before ++ (asName, offers) :: after)).map fun extension =>
        extension.row? asName : List (Option (Record α))) : Multiset (Option (Record α))) =
      ((before ++ after).map fun entry => entry.2.length).prod •
        (offers : Multiset (Option (Record α))) := by
  induction before generalizing scope with
  | nil =>
    -- Each row that is offered is kept through all the joins that follow, which only repeat it.
    have block : ∀ row, ((scope.bind asName row).extended after).map
        (fun extension => extension.row? asName) =
          List.replicate (after.map fun entry => entry.2.length).prod row := by
      intro row
      rw [List.eq_replicate_iff, List.length_map, length_extended]
      refine ⟨rfl, fun found member => ?_⟩
      obtain ⟨extension, inside, rfl⟩ := List.mem_map.mp member
      rw [row?_of_mem_extended inside fresh, row?_bind_self]
    simp only [List.nil_append, extended, List.map_flatMap, block, coe_flatMap_replicate]
  | cons entry before ih =>
    simp only [List.cons_append, extended, List.map_flatMap, List.map_cons, List.prod_cons]
    rw [coe_flatMap_const fun row _ => ih (scope.bind entry.1 row), mul_nsmul']

theorem value_of_mem_extended {column : Column} (member : extension ∈ scope.extended aliases)
    (own : column.relation = scope.table) : extension.value column = scope.cells column.name := by
  have same := alone_of_mem_extended member
  have table : extension.table = scope.table := by simpa [alone] using congrArg Scope.table same
  have cells : extension.cells = scope.cells := by simpa [alone] using congrArg Scope.cells same
  unfold value
  rw [table, cells]
  exact if_pos own

theorem extended_ne_nil (some : ∀ entry ∈ aliases, entry.2 ≠ []) : scope.extended aliases ≠ [] := by
  induction aliases generalizing scope with
  | nil => exact List.cons_ne_nil _ _
  | cons entry rest ih =>
    obtain ⟨first, others⟩ := List.forall_mem_cons.mp some
    obtain ⟨row, member⟩ := List.exists_mem_of_ne_nil _ first
    intro empty
    exact ih others (List.flatMap_eq_nil_iff.mp empty row member)

end

end Scope

theorem SelectItem.exists_datum_array {server : Server α} {group : List (Scope α)}
    {asName output : String} {copies : Nat} {matching : List (Record α)}
    (rows : ((group.map fun scope => scope.row? asName : List (Option (Record α))) :
      Multiset (Option (Record α))) = copies • (offered matching : Multiset (Option (Record α)))) :
    ∃ rows, (SelectItem.array asName output).datum server group = .array rows ∧
      (rows : Multiset (Option (Record α))) =
        copies • (matching.map some : Multiset (Option (Record α))) := by
  refine ⟨_, rfl, ?_⟩
  have members : ∀ row ∈ group.map fun scope => scope.row? asName, row ∈ offered matching := by
    intro row member
    rw [← Multiset.mem_coe, rows] at member
    exact (Multiset.mem_nsmul.mp member).2
  cases matching with
  | nil =>
    have lacking : (group.map fun scope => scope.row? asName).countP Option.isSome = 0 := by
      rw [List.countP_eq_zero]
      intro row member
      rw [List.mem_singleton.mp (members row member)]
      exact Bool.false_ne_true
    rw [if_pos lacking]
    simp
  | cons row rest =>
    -- All are rows, so that none is counted only where there is none.
    have whole : (group.map fun scope => scope.row? asName).countP Option.isSome = 0 →
        group.map (fun scope => scope.row? asName) = [] := by
      intro none
      rw [List.countP_eq_zero] at none
      refine List.eq_nil_iff_forall_not_mem.mpr fun found member => none found member ?_
      obtain ⟨_, _, rfl⟩ := List.mem_map.mp (members found member)
      rfl
    split
    · next none =>
      rw [whole none] at rows
      exact rows
    · exact rows

end Sql

variable [DecidableEq α]

def JoinRule.matching (rule : JoinRule) (rows : List (Sql.Record α)) (cells : Sql.Cells α) :
    List (Sql.Record α) :=
  rows.filter fun row => Sql.equal (row.value rule.childColumn) (cells rule.parentColumn)

namespace Sql

theorem Scope.leftJoin_eq {rule : JoinRule} {scope : Scope α} (rows : List (Record α))
    (parent : rule.parent.name = scope.table) (apart : rule.asName ≠ scope.table) :
    scope.leftJoin rule rows =
      (offered (rule.matching rows scope.cells)).map (scope.bind rule.asName) := by
  have left : ∀ row, (scope.bind rule.asName (some row)).value rule.left =
      row.value rule.childColumn := by
    intro row
    unfold value JoinRule.left
    rw [row?_bind_self, Option.bind_some]
    exact if_neg apart
  have right : ∀ row, (scope.bind rule.asName (some row)).value rule.right =
      scope.cells rule.parentColumn := fun row => if_pos parent
  have met : (rows.map fun row => scope.bind rule.asName (some row)).filter
      (fun joined => equal (joined.value rule.left) (joined.value rule.right)) =
        (rule.matching rows scope.cells).map fun row => scope.bind rule.asName (some row) := by
    rw [List.filter_map, JoinRule.matching]
    congr 2
    funext row
    rw [Function.comp_apply, left, right]
  rw [leftJoin, met, offered]
  cases rule.matching rows scope.cells <;> simp

def Joined.offers (server : Server α) (cells : Cells α) (joined : Joined Select) :
    String × List (Option (Record α)) :=
  (joined.rule.asName, offered (joined.rule.matching (joined.subquery.rows server) cells))

namespace Select

variable {server : Server α} {level : Select}

def block (server : Server α) (level : Select) (cells : Cells α) : List (Scope α) :=
  Scope.extended ⟨level.table, cells, []⟩ (level.joins.map (Joined.offers server cells))

def passing (server : Server α) (level : Select) : List (Cells α) :=
  (server.tables level.table).filter fun cells =>
    level.filter.all fun fragment => server.holds fragment ⟨level.table, cells, []⟩

def Attached (level : Select) : Prop :=
  ∀ joined ∈ level.joins, joined.rule.parent.name = level.table ∧ joined.rule.asName ≠ level.table

theorem joinedRows_eq {joins : List (Joined Select)} {scopes : List (Scope α)} {table : String}
    (attached : ∀ joined ∈ joins, joined.rule.parent.name = table ∧ joined.rule.asName ≠ table)
    (on : ∀ scope ∈ scopes, scope.table = table) :
    joinedRows server joins scopes = scopes.flatMap fun scope =>
      scope.extended (joins.map (Joined.offers server scope.cells)) := by
  induction joins generalizing scopes with
  | nil => exact (List.flatMap_singleton' scopes).symm
  | cons joined rest ih =>
    obtain ⟨⟨parent, apart⟩, others⟩ := List.forall_mem_cons.mp attached
    have step : scopes.flatMap (Scope.leftJoin joined.rule (joined.subquery.rows server)) =
        scopes.flatMap fun scope =>
          (joined.offers server scope.cells).2.map (scope.bind joined.rule.asName) := by
      refine List.flatMap_congr fun scope member => ?_
      rw [← on scope member] at parent apart
      exact Scope.leftJoin_eq _ parent apart
    rw [joinedRows, step, ih others, List.flatMap_assoc]
    · refine List.flatMap_congr fun scope _ => ?_
      rw [List.flatMap_map]
      rfl
    · intro scope member
      obtain ⟨source, inside, bound⟩ := List.mem_flatMap.mp member
      obtain ⟨row, _, rfl⟩ := List.mem_map.mp bound
      exact on source inside

theorem block_ne_nil (cells : Cells α) : level.block server cells ≠ [] := by
  refine Scope.extended_ne_nil fun entry member => ?_
  obtain ⟨joined, _, rfl⟩ := List.mem_map.mp member
  rw [← List.length_pos_iff, Joined.offers, length_offered]
  omega

theorem filter_joinedRows (attached : level.Attached)
    (alone : ∀ fragment ∈ level.filter, ∀ scope,
      server.holds fragment scope = server.holds fragment scope.alone) :
    (joinedRows server level.joins
        ((server.tables level.table).map fun cells => ⟨level.table, cells, []⟩)).filter
        (fun scope => level.filter.all fun fragment => server.holds fragment scope) =
      (level.passing server).flatMap (level.block server) := by
  have on : ∀ scope ∈ (server.tables level.table).map fun cells => (⟨level.table, cells, []⟩ :
      Scope α), scope.table = level.table := List.forall_mem_map.mpr fun _ _ => rfl
  rw [joinedRows_eq attached on, List.flatMap_map]
  refine filter_flatMap_block fun cells _ scope inBlock => ?_
  have same := Scope.alone_of_mem_extended inBlock
  cases filter : level.filter with
  | none => rfl
  | some fragment =>
    rw [Option.all_some, Option.all_some, alone fragment filter scope, same]
    rfl

theorem groups_passing (aggregate : level.items.any SelectItem.isArray)
    (own : ∀ column ∈ level.groupBy, column.relation = level.table)
    (distinct : (level.passing server).Pairwise fun a b =>
      ∃ column ∈ level.groupBy, a column.name ≠ b column.name)
    (some : level.passing server ≠ []) :
    groups level.items level.groupBy ((level.passing server).flatMap (level.block server)) =
      (level.passing server).map (level.block server) := by
  unfold groups
  by_cases empty : level.groupBy = []
  · rw [if_pos (List.isEmpty_iff.mpr empty), if_pos aggregate]
    -- Without group columns no two rows are told apart, so that there is one row only.
    cases rows : level.passing server with
    | nil => exact absurd rows some
    | cons cells rest =>
      cases rest with
      | nil => simp
      | cons other rest =>
        rw [rows, empty] at distinct
        obtain ⟨_, member, _⟩ := List.rel_of_pairwise_cons distinct List.mem_cons_self
        cases member
  · rw [if_neg (by simpa using empty)]
    have keys : ∀ cells ∈ level.passing server, ∀ scope ∈ level.block server cells,
        level.groupBy.map scope.value = level.groupBy.map fun column => cells column.name :=
      fun cells _ scope inBlock => List.map_congr_left fun column member =>
        Scope.value_of_mem_extended inBlock (own column member)
    refine groupsBy_flatMap_block keys (fun cells _ => block_ne_nil cells) (distinct.imp ?_)
    intro a b told same
    obtain ⟨column, member, apart⟩ := told
    exact apart (List.map_inj_left.mp same column member)

theorem rows_eq_map (attached : level.Attached)
    (alone : ∀ fragment ∈ level.filter, ∀ scope,
      server.holds fragment scope = server.holds fragment scope.alone)
    (aggregate : level.items.any SelectItem.isArray)
    (own : ∀ column ∈ level.groupBy, column.relation = level.table)
    (distinct : (level.passing server).Pairwise fun a b =>
      ∃ column ∈ level.groupBy, a column.name ≠ b column.name)
    (some : level.passing server ≠ []) :
    level.rows server = (level.passing server).map fun cells =>
      level.items.map fun item => (item.output, item.datum server (level.block server cells)) := by
  have merged := groups_passing aggregate own distinct some
  rw [← filter_joinedRows attached alone] at merged
  obtain ⟨items, table, joins, filter, groupBy⟩ := level
  rw [rows, merged, List.map_map]
  rfl

end Select

end Sql

end StatTree
