import StatTree.Sql.Column

namespace StatTree

/-- A column list. The name identifies it in signatures; callers may define lists of their own. -/
structure ColumnList where
  name : String
  relation : String
  columns : List String
deriving DecidableEq, Repr, Inhabited

def ColumnList.selects (list : ColumnList) : List Sql.Column :=
  list.columns.map fun column => ⟨list.relation, column⟩

end StatTree
