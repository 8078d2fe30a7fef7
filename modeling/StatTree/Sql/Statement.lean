import StatTree.Text.Separated

namespace StatTree.Sql

structure LeftJoin where
  subquery : String
  asName : String
  condition : String
deriving DecidableEq, Repr

def LeftJoin.text (join : LeftJoin) : String :=
  "LEFT JOIN (" ++ join.subquery ++ ") AS " ++ join.asName ++ " ON " ++ join.condition

structure Statement where
  table : String
  fields : List String := []
  joins : List LeftJoin := []
  condition : Option String := none
  groups : List String := []
deriving DecidableEq, Repr

namespace Statement

def select (statement : Statement) (fields : List String) : Statement :=
  { statement with fields }

def addSelect (statement : Statement) (expression : String) : Statement :=
  { statement with fields := statement.fields ++ [expression] }

def join (statement : Statement) (join : LeftJoin) : Statement :=
  { statement with joins := statement.joins ++ [join] }

def filter (statement : Statement) (fragment : String) : Statement :=
  { statement with condition := some fragment }

def groupBy (statement : Statement) (fields : List String) : Statement :=
  { statement with groups := statement.groups ++ fields }

def hasJoins (statement : Statement) : Bool := !statement.joins.isEmpty

def joinsText : List LeftJoin → String
  | [] => ""
  | join :: rest => " " ++ join.text ++ joinsText rest

def conditionText : Option String → String
  | none => ""
  | some fragment => " WHERE " ++ fragment

def groupsText : List String → String
  | [] => ""
  | fields => " GROUP BY " ++ Text.separated ", " fields

def text (statement : Statement) : String :=
  "SELECT " ++ Text.separated ", " statement.fields ++ " FROM " ++ statement.table ++
    joinsText statement.joins ++ conditionText statement.condition ++ groupsText statement.groups

inductive Step
  | select (fields : List String)
  | addSelect (expression : String)
  | join (join : LeftJoin)
  | filter (fragment : String)
  | groupBy (fields : List String)
deriving DecidableEq, Repr

def apply (statement : Statement) : Step → Statement
  | .select fields => statement.select fields
  | .addSelect expression => statement.addSelect expression
  | .join join => statement.join join
  | .filter fragment => statement.filter fragment
  | .groupBy fields => statement.groupBy fields

def build (table : String) (steps : List Step) : Statement :=
  steps.foldl apply { table }

def stages (statement : Statement) : List Step → List Statement
  | [] => [statement]
  | step :: rest => statement :: stages (statement.apply step) rest

end Statement

end StatTree.Sql
