import StatTree.Compile
import StatTree.Proofs.Outcome
import StatTree.Proofs.Query.Tree
import StatTree.Sql.Select

namespace StatTree.Query

structure Contribution where
  item : Sql.SelectItem
  join : Option (Sql.Joined Sql.Select)

def level (query : Query) (parts : List Contribution) : Sql.Select :=
  let base := (query.columns.map ColumnList.selects).getD []
  let joins := parts.filterMap Contribution.join
  { items := base.map Sql.SelectItem.column ++ parts.map Contribution.item
    table := query.target.name
    joins
    filter := query.filter
    groupBy := if joins.isEmpty then [] else base }

def contribution (parent : Target) (child : Query) (lowered : Except QueryError Sql.Select) :
    Except QueryError Contribution :=
  if child.isValid then do
    match ← JoinClause.find parent child.target with
    | .selectOnly item => .ok ⟨item, none⟩
    | .subquery rule =>
      if child.selectOnly then .ok ⟨rule.item, none⟩
      else lowered.map fun subquery => ⟨rule.item, some ⟨rule, subquery⟩⟩
  else .error (.unsupportedTarget child.display)

mutual

def lower (query : Query) : Except QueryError Sql.Select :=
  match query with
  | ⟨target, columns, selectOnly, filter, children⟩ =>
    if isValid ⟨target, columns, selectOnly, filter, children⟩ then do
      let parts ← lowerChildren target children
      .ok (level ⟨target, columns, selectOnly, filter, []⟩ parts)
    else .error (.unsupportedTarget (display ⟨target, columns, selectOnly, filter, children⟩))

def lowerChildren (parent : Target) : List Query → Except QueryError (List Contribution)
  | [] => .ok []
  | child :: rest => do
    let part ← (contribution parent child child.lower).mapError (.joinFailed parent child.target)
    let parts ← lowerChildren parent rest
    .ok (part :: parts)

end

def select (query : Query) : Except QueryError Sql.Select :=
  if query.isRecursive then .error .mutualRecursion else query.lower

theorem lower_eq (query : Query) :
    query.lower = if query.isValid then
        (lowerChildren query.target query.children).map (level query)
      else .error (.unsupportedTarget query.display) := by
  obtain ⟨target, columns, selectOnly, filter, children⟩ := query
  rw [lower]
  split
  · cases lowerChildren target children <;> rfl
  · rfl

theorem assemble_eq (query : Query) :
    query.assemble = if query.isValid then
        (addChildren query.target query.children
          (Sql.Statement.select { table := query.target.name } (baseTexts query.columns))).map
          fun statement => (close (baseTexts query.columns) query.filter statement).text
      else .error (.unsupportedTarget query.display) := by
  obtain ⟨target, columns, selectOnly, filter, children⟩ := query
  rw [assemble]
  split
  · dsimp only
    cases addChildren target children
      (Sql.Statement.select { table := target.name } (baseTexts columns)) <;> rfl
  · rfl

def Contribution.addTo (part : Contribution) (statement : Sql.Statement) : Sql.Statement :=
  { statement with
    fields := statement.fields ++ [part.item.text]
    joins := statement.joins ++ (part.join.map Sql.Select.leftJoin).toList }

theorem addChild_map_text (parent : Target) (child : Query)
    (lowered : Except QueryError Sql.Select) (statement : Sql.Statement) :
    addChild parent child (lowered.map Sql.Select.text) statement =
      (contribution parent child lowered).map fun part => part.addTo statement := by
  rw [addChild, contribution]
  by_cases valid : child.isValid
  · rw [if_pos valid, if_pos valid]
    cases JoinClause.find parent child.target with
    | error cause => rfl
    | ok clause =>
      cases clause with
      | selectOnly item =>
        simp [bind, Except.bind, Except.map, Contribution.addTo, Sql.Statement.addSelect]
      | subquery rule =>
        by_cases only : child.selectOnly
        · simp [bind, Except.bind, Except.map, only, Contribution.addTo, Sql.Statement.addSelect]
        · cases lowered with
          | error cause => simp [bind, Except.bind, Except.map, only]
          | ok subquery =>
            simp [bind, Except.bind, Except.map, only, Contribution.addTo,
              Sql.Statement.addSelect, Sql.Statement.join, Sql.Select.leftJoin, Sql.Select.text]
  · rw [if_neg valid, if_neg valid]
    rfl

/-- The loop over the children keeps the statement in step with what they add. -/
theorem addChildren_eq_lowerChildren (parent : Target) (children : List Query)
    (statement : Sql.Statement)
    (texts : ∀ child ∈ children, child.assemble = child.lower.map Sql.Select.text) :
    addChildren parent children statement =
      (lowerChildren parent children).map fun parts =>
        parts.foldl (fun statement part => part.addTo statement) statement := by
  induction children generalizing statement with
  | nil => rfl
  | cons child rest ih =>
    rw [addChildren, lowerChildren, texts child List.mem_cons_self, addChild_map_text, map_mapError]
    generalize (contribution parent child child.lower).mapError
      (QueryError.joinFailed parent child.target) = added
    cases added with
    | error cause => rfl
    | ok part =>
      have after := ih (part.addTo statement)
        fun other member => texts other (List.mem_cons_of_mem _ member)
      simp only [Except.map, bind, Except.bind] at after ⊢
      rw [after]
      cases lowerChildren parent rest <;> rfl

theorem foldl_addTo (parts : List Contribution) (statement : Sql.Statement) :
    parts.foldl (fun statement part => part.addTo statement) statement =
      { statement with
        fields := statement.fields ++ parts.map (fun part => part.item.text)
        joins := statement.joins ++
          (parts.filterMap Contribution.join).map Sql.Select.leftJoin } := by
  induction parts generalizing statement with
  | nil => simp
  | cons part parts ih =>
    rw [List.foldl_cons, ih]
    cases joined : part.join <;> simp [Contribution.addTo, joined]

theorem leftJoins_eq_map (joins : List (Sql.Joined Sql.Select)) :
    Sql.Select.leftJoins joins = joins.map Sql.Select.leftJoin := by
  induction joins with
  | nil => rfl
  | cons joined rest ih => rw [Sql.Select.leftJoins, ih, List.map_cons]

theorem level_statement (query : Query) (parts : List Contribution) :
    (level query parts).statement =
      close (baseTexts query.columns) query.filter
        { table := query.target.name
          fields := baseTexts query.columns ++ parts.map (fun part => part.item.text)
          joins := (parts.filterMap Contribution.join).map Sql.Select.leftJoin } := by
  have fields : (((query.columns.map ColumnList.selects).getD []).map Sql.SelectItem.column ++
      parts.map Contribution.item).map Sql.SelectItem.text =
        baseTexts query.columns ++ parts.map (fun part => part.item.text) := by
    rw [List.map_append, List.map_map, List.map_map, baseTexts]
    rfl
  rw [level, Sql.Select.statement, leftJoins_eq_map, fields]
  cases filter : query.filter <;> cases joined : parts.filterMap Contribution.join <;> rfl

theorem assemble_eq_lower (query : Query) :
    query.assemble = query.lower.map Sql.Select.text := by
  induction query using node_induction with
  | node query ih =>
    rw [assemble_eq, lower_eq]
    by_cases valid : query.isValid
    · rw [if_pos valid, if_pos valid, addChildren_eq_lowerChildren _ _ _ ih]
      cases lowerChildren query.target query.children with
      | error cause => rfl
      | ok parts =>
        simp only [Except.map, foldl_addTo, Sql.Select.text, level_statement]
        rfl
    · rw [if_neg valid, if_neg valid]
      rfl

theorem compile_eq_select (query : Query) :
    query.compile = query.select.map Sql.Select.text := by
  rw [compile, select]
  by_cases recursive : query.isRecursive
  · rw [if_pos recursive, if_pos recursive]
    rfl
  · rw [if_neg recursive, if_neg recursive, assemble_eq_lower]

end StatTree.Query
