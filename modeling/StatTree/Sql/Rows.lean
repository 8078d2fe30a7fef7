import StatTree.Sql.Select

namespace StatTree.Sql

variable {α : Type}

/-- What a result holds in one column: a value, or the rows that are gathered there. A place in an
    array is empty where it was not a row that was gathered, but the lack of one. -/
inductive Datum (α : Type)
  | value (value : Option α)
  | array (rows : List (Option (List (String × Datum α))))

abbrev Record (α : Type) := List (String × Datum α)

def Record.value (record : Record α) (name : String) : Option α :=
  match record.lookup name with
  | some (.value value) => value
  | _ => none

abbrev Cells (α : Type) := String → Option α

/-- A row of a level before it is grouped: a row of the level's table, and with each alias the row
    that is joined under it, if there is one. The last alias that was bound comes first. -/
structure Scope (α : Type) where
  table : String
  cells : Cells α
  joined : List (String × Option (Record α)) := []

namespace Scope

def bind (scope : Scope α) (asName : String) (row : Option (Record α)) : Scope α :=
  { scope with joined := (asName, row) :: scope.joined }

def row? (scope : Scope α) (asName : String) : Option (Record α) :=
  (scope.joined.lookup asName).join

def value (scope : Scope α) (column : Column) : Option α :=
  if column.relation = scope.table then scope.cells column.name
  else (scope.row? column.relation).bind fun row => row.value column.name

def alone (scope : Scope α) : Scope α := { scope with joined := [] }

end Scope

/-- The tables of a server, and what filters and functions mean to it. A name that stands for
    nothing reads as null here, where a server refuses the statement. -/
structure Server (α : Type) where
  tables : String → List (Cells α)
  holds : String → Scope α → Bool
  call : String → Option α → Option α

variable [DecidableEq α]

-- Null equals nothing, null included.
def equal (left right : Option α) : Bool := left.isSome && left == right

namespace Scope

/-- The scopes that a row of a level becomes when the rows of a subquery are joined to it. A row
    that none of them meets is kept, with nothing in their place. -/
def leftJoin (rule : JoinRule) (rows : List (Record α)) (scope : Scope α) : List (Scope α) :=
  let met := (rows.map fun row => scope.bind rule.asName (some row)).filter fun joined =>
    equal (joined.value rule.left) (joined.value rule.right)
  if met.isEmpty then [scope.bind rule.asName none] else met

end Scope

def SelectItem.datum (server : Server α) (group : List (Scope α)) : SelectItem → Datum α
  | .column source => .value (group.head?.bind fun scope => scope.value source)
  | .array asName _ =>
    let rows := group.map fun scope => scope.row? asName
    .array (if rows.countP Option.isSome = 0 then [] else rows)
  | .call function argument _ =>
    .value (server.call function (group.head?.bind fun scope => scope.value argument))

def SelectItem.isArray : SelectItem → Bool
  | .array _ _ => true
  | _ => false

def groupsBy {β κ : Type} [BEq κ] (key : β → κ) (elements : List β) : List (List β) :=
  (elements.map key).eraseDups.map fun common =>
    elements.filter fun element => key element == common

namespace Select

def groups (items : List SelectItem) (groupBy : List Column) (scopes : List (Scope α)) :
    List (List (Scope α)) :=
  if groupBy.isEmpty then
    if items.any SelectItem.isArray then [scopes] else scopes.map fun scope => [scope]
  else groupsBy (fun scope => groupBy.map scope.value) scopes

mutual

def rows (server : Server α) (select : Select) : List (Record α) :=
  match select with
  | ⟨items, table, joins, filter, groupBy⟩ =>
    let single := (server.tables table).map fun cells => ⟨table, cells, []⟩
    let kept := (joinedRows server joins single).filter fun scope =>
      filter.all fun fragment => server.holds fragment scope
    (groups items groupBy kept).map fun group =>
      items.map fun item => (item.output, item.datum server group)

def joinedRows (server : Server α) (joins : List (Joined Select)) (scopes : List (Scope α)) :
    List (Scope α) :=
  match joins with
  | [] => scopes
  | ⟨rule, subquery⟩ :: rest =>
    joinedRows server rest (scopes.flatMap (Scope.leftJoin rule (subquery.rows server)))

end

end Select

end StatTree.Sql
