import StatTree.JoinRule
import StatTree.Query
import StatTree.Sql.Statement

namespace StatTree.Query

def baseTexts (columns : Option ColumnList) : List String :=
  ((columns.map ColumnList.selects).getD []).map Sql.Column.text

/-- Adds to the statement of a parent what a child contributes, where `lowered` is the child's own
    text. The child's validity is looked at first, then the pair of targets, then the text. -/
def addChild (parent : Target) (child : Query) (lowered : Except QueryError String)
    (statement : Sql.Statement) : Except QueryError Sql.Statement :=
  if child.isValid then do
    match ← JoinClause.find parent child.target with
    | .selectOnly item => .ok (statement.addSelect item.text)
    | .subquery rule =>
      let widened := statement.addSelect rule.item.text
      if child.selectOnly then .ok widened
      else lowered.map fun text => widened.join ⟨text, rule.asName, rule.condition⟩
  else .error (.unsupportedTarget child.display)

def close (base : List String) (filter : Option String) (statement : Sql.Statement) :
    Sql.Statement :=
  let grouped := if statement.hasJoins then statement.groupBy base else statement
  match filter with
  | some fragment => grouped.filter fragment
  | none => grouped

mutual

def assemble (query : Query) : Except QueryError String :=
  match query with
  | ⟨target, columns, selectOnly, filter, children⟩ =>
    if isValid ⟨target, columns, selectOnly, filter, children⟩ then do
      let base := baseTexts columns
      let joined ← addChildren target children (Sql.Statement.select { table := target.name } base)
      .ok (close base filter joined).text
    else .error (.unsupportedTarget (display ⟨target, columns, selectOnly, filter, children⟩))

def addChildren (parent : Target) (children : List Query) (statement : Sql.Statement) :
    Except QueryError Sql.Statement :=
  match children with
  | [] => .ok statement
  | child :: rest => do
    let added ← (addChild parent child child.assemble statement).mapError
      (.joinFailed parent child.target)
    addChildren parent rest added

end

/-- The SQL text of a tree; a tree in which a signature occurs twice has none. -/
def compile (query : Query) : Except QueryError String :=
  if query.isRecursive then .error .mutualRecursion else query.assemble

end StatTree.Query
