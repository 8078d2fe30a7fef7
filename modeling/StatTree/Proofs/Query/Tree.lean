import Mathlib.Data.List.Nodup
import StatTree.Query

namespace StatTree.Query

@[elab_as_elim]
theorem node_induction {motive : Query → Prop}
    (node : ∀ query : Query, (∀ child ∈ query.children, motive child) → motive query)
    (query : Query) : motive query := by
  refine @Query.rec motive (fun queries => ∀ child ∈ queries, motive child) ?_ ?_ ?_ query
  · intro target columns selectOnly filter children ih
    exact node _ ih
  · intro child member
    cases member
  · intro head tail first rest child member
    rcases List.mem_cons.mp member with rfl | member
    · exact first
    · exact rest child member

def at? (query : Query) : List Nat → Option Query
  | [] => some query
  | index :: path => query.children[index]?.bind fun child => child.at? path

@[simp] theorem at?_nil (query : Query) : query.at? [] = some query := rfl

theorem at?_cons (query : Query) (index : Nat) (path : List Nat) :
    query.at? (index :: path) = query.children[index]?.bind fun child => child.at? path := rfl

theorem at?_cons_eq_some {query node : Query} {index : Nat} {path : List Nat} :
    query.at? (index :: path) = some node ↔
      ∃ child, query.children[index]? = some child ∧ child.at? path = some node := by
  rw [at?_cons, Option.bind_eq_some_iff]

theorem at?_append (query : Query) (front back : List Nat) :
    query.at? (front ++ back) = (query.at? front).bind fun node => node.at? back := by
  induction front generalizing query with
  | nil => rfl
  | cons index front ih =>
    rw [List.cons_append, at?_cons, at?_cons, Option.bind_assoc]
    congr 1
    funext child
    exact ih child

theorem mem_nodes_self (query : Query) : query ∈ query.nodes := by
  rw [nodes_eq]
  exact List.mem_cons_self

theorem mem_nodes_of_child {query child node : Query} (hc : child ∈ query.children)
    (hn : node ∈ child.nodes) : node ∈ query.nodes := by
  rw [nodes_eq]
  exact List.mem_cons_of_mem _ (List.mem_flatMap.mpr ⟨child, hc, hn⟩)

theorem child_mem_nodes {query child : Query} (hc : child ∈ query.children) :
    child ∈ query.nodes := mem_nodes_of_child hc (mem_nodes_self child)

theorem forall_mem_nodes {property : Query → Prop} {query : Query} (self : property query)
    (below : ∀ child ∈ query.children, ∀ node ∈ child.nodes, property node) :
    ∀ node ∈ query.nodes, property node := by
  intro node member
  rw [nodes_eq, List.mem_cons] at member
  rcases member with rfl | member
  · exact self
  · obtain ⟨child, hc, inner⟩ := List.mem_flatMap.mp member
    exact below child hc node inner

theorem mem_nodes_iff {query node : Query} :
    node ∈ query.nodes ↔ ∃ path, query.at? path = some node := by
  induction query using node_induction with
  | node query ih =>
    constructor
    · intro member
      rw [nodes_eq, List.mem_cons] at member
      rcases member with rfl | member
      · exact ⟨[], rfl⟩
      · obtain ⟨child, hc, below⟩ := List.mem_flatMap.mp member
        obtain ⟨path, found⟩ := (ih child hc).mp below
        obtain ⟨index, bound, rfl⟩ := List.getElem_of_mem hc
        refine ⟨index :: path, at?_cons_eq_some.mpr ⟨_, ?_, found⟩⟩
        exact List.getElem?_eq_getElem bound
    · intro reached
      obtain ⟨path, found⟩ := reached
      cases path with
      | nil =>
        cases found
        exact mem_nodes_self _
      | cons index path =>
        obtain ⟨child, atIndex, below⟩ := at?_cons_eq_some.mp found
        have hc := List.mem_of_getElem? atIndex
        exact mem_nodes_of_child hc ((ih child hc).mpr ⟨path, below⟩)

def recordTexts (seen : List String) : List String → Option (List String)
  | [] => some seen
  | text :: rest => if text ∈ seen then none else recordTexts (text :: seen) rest

theorem recordTexts_append (seen front back : List String) :
    recordTexts seen (front ++ back) =
      (recordTexts seen front).bind fun seen => recordTexts seen back := by
  induction front generalizing seen with
  | nil => rfl
  | cons text front ih =>
    rw [List.cons_append, recordTexts, recordTexts]
    by_cases met : text ∈ seen
    · rw [if_pos met, if_pos met, Option.bind_none]
    · rw [if_neg met, if_neg met, ih]

theorem record_eq_recordTexts (seen : List String) (query : Query) :
    query.record seen = recordTexts seen (query.nodes.map signature) := by
  induction query using node_induction generalizing seen with
  | node query ih =>
    have below : ∀ (queries : List Query) (_ : ∀ child ∈ queries, child ∈ query.children)
        (seen : List String),
        recordAll seen queries = recordTexts seen ((queries.flatMap nodes).map signature) := by
      intro queries
      induction queries with
      | nil => intro _ seen; rfl
      | cons child rest ihRest =>
        intro members seen
        rw [recordAll, List.flatMap_cons, List.map_append, recordTexts_append,
          ih child (members child List.mem_cons_self)]
        congr 1
        funext met
        exact ihRest (fun other member => members other (List.mem_cons_of_mem _ member)) met
    rw [nodes_eq, List.map_cons, recordTexts]
    rw [← below query.children (fun _ member => member)]
    cases query
    rfl

theorem recordTexts_isSome_iff (seen texts : List String) :
    (recordTexts seen texts).isSome ↔ texts.Nodup ∧ ∀ text ∈ texts, text ∉ seen := by
  induction texts generalizing seen with
  | nil => simp [recordTexts]
  | cons text rest ih =>
    rw [recordTexts]
    by_cases met : text ∈ seen
    · simp [met]
    · rw [if_neg met, ih, List.nodup_cons]
      constructor
      · intro fits
        obtain ⟨distinct, fresh⟩ := fits
        refine ⟨⟨fun member => fresh text member List.mem_cons_self, distinct⟩, ?_⟩
        intro other member
        rcases List.mem_cons.mp member with rfl | member
        · exact met
        · exact fun before => fresh other member (List.mem_cons_of_mem _ before)
      · intro fits
        obtain ⟨⟨absent, distinct⟩, fresh⟩ := fits
        refine ⟨distinct, fun other member before => ?_⟩
        rcases List.mem_cons.mp before with rfl | before
        · exact absent member
        · exact fresh other (List.mem_cons_of_mem _ member) before

theorem isRecursive_eq_false_iff_nodup (query : Query) :
    query.isRecursive = false ↔ (query.nodes.map signature).Nodup := by
  rw [isRecursive, record_eq_recordTexts, Option.isNone_eq_false_iff, recordTexts_isSome_iff]
  simp

def DistinctSignatures (query : Query) : Prop :=
  ∀ p q a b, query.at? p = some a → query.at? q = some b → a.signature = b.signature → p = q

theorem mem_map_signature_iff {query : Query} {text : String} :
    text ∈ query.nodes.map signature ↔
      ∃ path node, query.at? path = some node ∧ node.signature = text := by
  rw [List.mem_map]
  constructor
  · intro written
    obtain ⟨node, member, rfl⟩ := written
    obtain ⟨path, found⟩ := mem_nodes_iff.mp member
    exact ⟨path, node, found, rfl⟩
  · intro written
    obtain ⟨path, node, found, rfl⟩ := written
    exact ⟨node, mem_nodes_iff.mpr ⟨path, found⟩, rfl⟩

theorem DistinctSignatures.below {query node : Query} {path : List Nat}
    (distinct : DistinctSignatures query) (found : query.at? path = some node) :
    DistinctSignatures node := by
  intro p q a b atP atQ same
  have whole : path ++ p = path ++ q := by
    apply distinct _ _ a b _ _ same
    · rw [at?_append, found, Option.bind_some, atP]
    · rw [at?_append, found, Option.bind_some, atQ]
  exact List.append_cancel_left whole

theorem nodup_signatures_iff (query : Query) :
    (query.nodes.map signature).Nodup ↔
      query.signature ∉ query.children.flatMap (fun child => child.nodes.map signature) ∧
      (∀ child ∈ query.children, (child.nodes.map signature).Nodup) ∧
      ∀ (i j : Nat) (a b : Query), query.children[i]? = some a → query.children[j]? = some b →
        i < j → List.Disjoint (a.nodes.map signature) (b.nodes.map signature) := by
  rw [nodes_eq, List.map_cons, List.nodup_cons, List.map_flatMap, List.nodup_flatMap,
    List.pairwise_iff_getElem]
  refine and_congr_right fun _ => and_congr_right fun _ => ?_
  constructor
  · intro apart i j a b atI atJ less
    obtain ⟨boundI, rfl⟩ := List.getElem?_eq_some_iff.mp atI
    obtain ⟨boundJ, rfl⟩ := List.getElem?_eq_some_iff.mp atJ
    exact apart i j boundI boundJ less
  · intro apart i j boundI boundJ less
    exact apart i j _ _ (List.getElem?_eq_getElem boundI) (List.getElem?_eq_getElem boundJ) less

theorem DistinctSignatures.nodup {query : Query} (distinct : DistinctSignatures query)
    (ih : ∀ child ∈ query.children, DistinctSignatures child →
      (child.nodes.map signature).Nodup) : (query.nodes.map signature).Nodup := by
  rw [nodup_signatures_iff]
  refine ⟨?_, ?_, ?_⟩
  · intro member
    obtain ⟨child, hc, below⟩ := List.mem_flatMap.mp member
    obtain ⟨path, node, found, same⟩ := mem_map_signature_iff.mp below
    obtain ⟨index, bound, rfl⟩ := List.getElem_of_mem hc
    have atPath : query.at? (index :: path) = some node :=
      at?_cons_eq_some.mpr ⟨_, List.getElem?_eq_getElem bound, found⟩
    have positions := distinct (index :: path) [] node query atPath rfl same
    cases positions
  · intro child hc
    obtain ⟨index, bound, rfl⟩ := List.getElem_of_mem hc
    have atIndex : query.at? [index] = some query.children[index] :=
      at?_cons_eq_some.mpr ⟨_, List.getElem?_eq_getElem bound, rfl⟩
    exact ih _ hc (distinct.below atIndex)
  · intro i j a b atI atJ less text memberA memberB
    obtain ⟨p, left, foundA, sameA⟩ := mem_map_signature_iff.mp memberA
    obtain ⟨q, right, foundB, sameB⟩ := mem_map_signature_iff.mp memberB
    have positions := distinct (i :: p) (j :: q) left right
      (at?_cons_eq_some.mpr ⟨a, atI, foundA⟩) (at?_cons_eq_some.mpr ⟨b, atJ, foundB⟩)
      (sameA.trans sameB.symm)
    have index := (List.cons.inj positions).1
    omega

theorem DistinctSignatures.of_nodup {query : Query} (distinct : (query.nodes.map signature).Nodup)
    (ih : ∀ child ∈ query.children, (child.nodes.map signature).Nodup →
      DistinctSignatures child) : DistinctSignatures query := by
  obtain ⟨root, within, apart⟩ := (nodup_signatures_iff query).mp distinct
  have notRoot : ∀ index path node, query.at? (index :: path) = some node →
      node.signature ≠ query.signature := by
    intro index path node found same
    obtain ⟨child, atIndex, below⟩ := at?_cons_eq_some.mp found
    have member := mem_map_signature_iff.mpr ⟨path, node, below, same⟩
    exact root (List.mem_flatMap.mpr ⟨child, List.mem_of_getElem? atIndex, member⟩)
  intro p q a b atP atQ same
  cases p with
  | nil =>
    cases atP
    cases q with
    | nil => rfl
    | cons j q => exact absurd same.symm (notRoot j q b atQ)
  | cons i p =>
    cases q with
    | nil =>
      cases atQ
      exact absurd same (notRoot i p a atP)
    | cons j q =>
      obtain ⟨left, atI, belowLeft⟩ := at?_cons_eq_some.mp atP
      obtain ⟨right, atJ, belowRight⟩ := at?_cons_eq_some.mp atQ
      have memberLeft := mem_map_signature_iff.mpr ⟨p, a, belowLeft, rfl⟩
      have memberRight := mem_map_signature_iff.mpr ⟨q, b, belowRight, same.symm⟩
      rcases Nat.lt_trichotomy i j with less | rfl | less
      · exact (apart i j left right atI atJ less memberLeft memberRight).elim
      · have child : left = right := Option.some.inj (atI.symm.trans atJ)
        subst right
        have hc := List.mem_of_getElem? atI
        rw [ih left hc (within left hc) p q a b belowLeft belowRight same]
      · exact (apart j i right left atJ atI less memberRight memberLeft).elim

theorem nodup_signatures_iff_distinct (query : Query) :
    (query.nodes.map signature).Nodup ↔ DistinctSignatures query := by
  induction query using node_induction with
  | node query ih =>
    constructor
    · intro distinct
      exact DistinctSignatures.of_nodup distinct fun child member => (ih child member).mp
    · intro distinct
      exact distinct.nodup fun child member => (ih child member).mpr

/-- The walk ends without a result exactly when two positions have one signature. -/
theorem isRecursive_eq_false_iff (query : Query) :
    query.isRecursive = false ↔ DistinctSignatures query := by
  rw [isRecursive_eq_false_iff_nodup, nodup_signatures_iff_distinct]

theorem isRecursive_eq_true_iff (query : Query) :
    query.isRecursive = true ↔ ∃ p q a b, p ≠ q ∧ query.at? p = some a ∧ query.at? q = some b ∧
      a.signature = b.signature := by
  rw [← Bool.not_eq_false, isRecursive_eq_false_iff, DistinctSignatures]
  constructor
  · intro equal
    simp only [not_forall] at equal
    obtain ⟨p, q, a, b, atP, atQ, same, apart⟩ := equal
    exact ⟨p, q, a, b, apart, atP, atQ, same⟩
  · intro repeated distinct
    obtain ⟨p, q, a, b, apart, atP, atQ, same⟩ := repeated
    exact apart (distinct p q a b atP atQ same)

end StatTree.Query
