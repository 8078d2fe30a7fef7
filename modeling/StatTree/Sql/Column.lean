namespace StatTree.Sql

structure Column where
  relation : String
  name : String
deriving DecidableEq, Repr, Inhabited

def Column.text (column : Column) : String := column.relation ++ "." ++ column.name

end StatTree.Sql
