import StatTree.ColumnList
import StatTree.Error
import StatTree.Text.Separated

namespace StatTree

structure Query where
  target : Target
  columns : Option ColumnList
  selectOnly : Bool
  filter : Option String
  children : List Query
deriving Repr, Inhabited

namespace Query

def reading (target : Target) (columns : ColumnList) : Query :=
  { target, columns := some columns, selectOnly := false, filter := none, children := [] }

def selecting (target : Target) : Query :=
  { target, columns := none, selectOnly := true, filter := none, children := [] }

def unavailable (target : Target) : Query :=
  { target, columns := none, selectOnly := false, filter := none, children := [] }

/-- Sets the filter. The empty filter is none at all. -/
def withFilter (query : Query) (filter : String) : Query :=
  { query with filter := if filter = "" then none else some filter }

def withChildren (query : Query) (children : List Query) : Query :=
  { query with children := query.children ++ children }

def withChild (query child : Query) : Query := query.withChildren [child]

def isValid (query : Query) : Bool :=
  query.target != .unspecified && (query.selectOnly || query.columns.isSome)

def columnsName (columns : Option ColumnList) : String :=
  match columns with
  | some list => list.name
  | none => "none"

def flagText (flag : Bool) : String := if flag then "true" else "false"

def filterText (filter : Option String) : String := Text.quoted (filter.getD "")

def header (query : Query) : String :=
  query.target.label ++ "|" ++ columnsName query.columns ++ "|" ++ flagText query.selectOnly ++
    "|" ++ filterText query.filter

mutual

def signature (query : Query) : String :=
  match query with
  | ⟨target, columns, selectOnly, filter, children⟩ =>
    header ⟨target, columns, selectOnly, filter, []⟩ ++ "[" ++
      Text.separated "," (signatures children) ++ "]"

def signatures : List Query → List String
  | [] => []
  | query :: rest => query.signature :: signatures rest

end

/-- Trees are equal when their signatures are. -/
instance : BEq Query := ⟨fun a b => a.signature == b.signature⟩

mutual

def nodes (query : Query) : List Query :=
  match query with
  | ⟨target, columns, selectOnly, filter, children⟩ =>
    ⟨target, columns, selectOnly, filter, children⟩ :: nodesOf children

def nodesOf : List Query → List Query
  | [] => []
  | query :: rest => query.nodes ++ nodesOf rest

end

mutual

/-- Walks the tree with the signatures met so far and adds those of its nodes. Nothing comes back
    once a signature is met again. -/
def record (seen : List String) (query : Query) : Option (List String) :=
  match query with
  | ⟨target, columns, selectOnly, filter, children⟩ =>
    let text := signature ⟨target, columns, selectOnly, filter, children⟩
    if text ∈ seen then none else recordAll (text :: seen) children

def recordAll (seen : List String) : List Query → Option (List String)
  | [] => some seen
  | query :: rest => (record seen query).bind fun seen => recordAll seen rest

end

def isRecursive (query : Query) : Bool := (query.record []).isNone

mutual

def display (query : Query) : String :=
  match query with
  | ⟨target, columns, selectOnly, filter, children⟩ =>
    "Queryable\x7btarget: " ++ target.name ++ ", specifier: " ++ columnsName columns ++
      ", select_only: " ++ flagText selectOnly ++ ", filter: " ++ filterText filter ++
      ", joins: [" ++ Text.separated ", " (displays children) ++ "]\x7d"

def displays : List Query → List String
  | [] => []
  | query :: rest => query.display :: displays rest

end

def optionText : Option String → String
  | some text => "Some(" ++ Text.quoted text ++ ")"
  | none => "None"

mutual

def details (query : Query) : String :=
  match query with
  | ⟨target, columns, selectOnly, filter, children⟩ =>
    "Queryable \x7b target: " ++ target.label ++ ", specifier: " ++
      optionText (columns.map ColumnList.name) ++ ", select_only: " ++ flagText selectOnly ++
      ", filter: " ++ optionText filter ++ ", joins: [" ++
      Text.separated ", " (detailsOf children) ++ "] \x7d"

def detailsOf : List Query → List String
  | [] => []
  | query :: rest => query.details :: detailsOf rest

end

theorem signatures_eq (queries : List Query) : signatures queries = queries.map signature := by
  induction queries with
  | nil => rfl
  | cons query rest ih => simp [signatures, ih]

theorem nodesOf_eq (queries : List Query) : nodesOf queries = queries.flatMap nodes := by
  induction queries with
  | nil => rfl
  | cons query rest ih => simp [nodesOf, ih]

theorem nodes_eq (query : Query) : query.nodes = query :: query.children.flatMap nodes := by
  cases query
  simp [nodes, nodesOf_eq]

end Query

end StatTree
