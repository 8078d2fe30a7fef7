import StatTree.JoinRule
import StatTree.Sql.Statement

namespace StatTree.Sql

structure Joined (α : Type) where
  rule : JoinRule
  subquery : α
deriving Repr

structure Select where
  items : List SelectItem
  table : String
  joins : List (Joined Select)
  filter : Option String
  groupBy : List Column
deriving Repr

namespace Select

mutual

def statement (select : Select) : Statement :=
  match select with
  | ⟨items, table, joins, filter, groupBy⟩ =>
    { table
      fields := items.map SelectItem.text
      joins := leftJoins joins
      condition := filter
      groups := groupBy.map Column.text }

def leftJoins : List (Joined Select) → List LeftJoin
  | [] => []
  | joined :: rest => leftJoin joined :: leftJoins rest

def leftJoin : Joined Select → LeftJoin
  | ⟨rule, subquery⟩ => ⟨subquery.statement.text, rule.asName, rule.condition⟩

end

def text (select : Select) : String := select.statement.text

mutual

def levels (select : Select) : List Select :=
  match select with
  | ⟨items, table, joins, filter, groupBy⟩ =>
    ⟨items, table, joins, filter, groupBy⟩ :: joinedLevels joins

def joinedLevels : List (Joined Select) → List Select
  | [] => []
  | joined :: rest => joinLevels joined ++ joinedLevels rest

def joinLevels : Joined Select → List Select
  | ⟨_, subquery⟩ => subquery.levels

end

end Select

end StatTree.Sql
