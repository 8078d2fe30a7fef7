import StatTree.Proofs.Query.Tree

namespace StatTree

def ColumnList.PlainName (list : ColumnList) : Prop := '|' ∉ list.name.toList ∧ list.name ≠ "none"

instance (list : ColumnList) : Decidable list.PlainName :=
  inferInstanceAs (Decidable (_ ∧ _))

namespace Query

def columnLists (query : Query) : List ColumnList := query.nodes.filterMap Query.columns

theorem mem_columnLists_self {query : Query} {list : ColumnList}
    (found : query.columns = some list) : list ∈ query.columnLists :=
  List.mem_filterMap.mpr ⟨query, mem_nodes_self query, found⟩

theorem mem_columnLists_of_child {query child : Query} {list : ColumnList}
    (hc : child ∈ query.children) (member : list ∈ child.columnLists) :
    list ∈ query.columnLists := by
  obtain ⟨node, hn, found⟩ := List.mem_filterMap.mp member
  exact List.mem_filterMap.mpr ⟨node, mem_nodes_of_child hc hn, found⟩

def PlainNames (query : Query) : Prop := ∀ list ∈ query.columnLists, list.PlainName

instance (query : Query) : Decidable query.PlainNames :=
  inferInstanceAs (Decidable (∀ list ∈ query.columnLists, list.PlainName))

inductive Built : Query → Prop
  | reading (target : Target) (columns : ColumnList) : Built (reading target columns)
  | selecting (target : Target) : Built (selecting target)
  | unavailable (target : Target) : Built (unavailable target)
  | withFilter {query : Query} (filter : String) : Built query → Built (query.withFilter filter)
  | withChildren {query : Query} {children : List Query} :
    Built query → (∀ child ∈ children, Built child) → Built (query.withChildren children)

theorem Built.filter_ne_empty {query : Query} (built : Built query) :
    ∀ node ∈ query.nodes, node.filter ≠ some "" := by
  induction built with
  | reading | selecting | unavailable => exact forall_mem_nodes nofun nofun
  | @withFilter query filter _ ih =>
    refine forall_mem_nodes ?_ fun child hc node below => ih node (mem_nodes_of_child hc below)
    rw [Query.withFilter]
    split
    · exact nofun
    · simpa using ‹_›
  | @withChildren query children _ _ ih ihChildren =>
    refine forall_mem_nodes (ih query (mem_nodes_self query)) fun child hc node below => ?_
    rcases List.mem_append.mp hc with hc | hc
    · exact ih node (mem_nodes_of_child hc below)
    · exact ihChildren child hc node below

/-- What reading a signature back relies on, at every node. -/
def Readable (query : Query) : Prop :=
  ∀ node ∈ query.nodes, (∀ list ∈ node.columns, list.PlainName) ∧ node.filter ≠ some ""

theorem Built.readable {query : Query} (built : Built query) (plain : PlainNames query) :
    Readable query := by
  intro node member
  refine ⟨fun list found => plain list ?_, built.filter_ne_empty node member⟩
  exact List.mem_filterMap.mpr ⟨node, member, found⟩

theorem Readable.child {query child : Query} (readable : Readable query)
    (hc : child ∈ query.children) : Readable child :=
  fun node member => readable node (mem_nodes_of_child hc member)

end Query

end StatTree
