import StatTree.Proofs.Compile.Acceptance
import StatTree.Views

namespace StatTree.Query

def ColumnOnly (parent : Target) (child : Query) : Prop :=
  child.selectOnly = true ∨ (parent, child.target) = (.statActivity, .blockingPids)

instance (parent : Target) (child : Query) : Decidable (ColumnOnly parent child) :=
  inferInstanceAs (Decidable (_ ∨ _))

/-- Two children that are valid, are not lowered, and have one target. Their filters, their column
    lists and all that is below them may differ. -/
structure ColumnTwins (parent : Target) (a b : Query) : Prop where
  target : a.target = b.target
  validLeft : a.isValid = true
  validRight : b.isValid = true
  columnLeft : ColumnOnly parent a
  columnRight : ColumnOnly parent b

mutual

inductive Alike : Query → Query → Prop
  | node {target : Target} {columns : Option ColumnList} {selectOnly : Bool}
    {filter : Option String} {as bs : List Query} : AlikeUnder target as bs →
    Alike ⟨target, columns, selectOnly, filter, as⟩ ⟨target, columns, selectOnly, filter, bs⟩

inductive AlikeUnder : Target → List Query → List Query → Prop
  | nil {parent : Target} : AlikeUnder parent [] []
  | same {parent : Target} {a b : Query} {as bs : List Query} : Alike a b →
    AlikeUnder parent as bs → AlikeUnder parent (a :: as) (b :: bs)
  | twins {parent : Target} {a b : Query} {as bs : List Query} : ColumnTwins parent a b →
    AlikeUnder parent as bs → AlikeUnder parent (a :: as) (b :: bs)

end

theorem ColumnTwins.symm {parent : Target} {a b : Query} (twins : ColumnTwins parent a b) :
    ColumnTwins parent b a :=
  ⟨twins.target.symm, twins.validRight, twins.validLeft, twins.columnRight, twins.columnLeft⟩

mutual

theorem Alike.refl : ∀ query : Query, Alike query query
  | ⟨target, _, _, _, children⟩ => .node (AlikeUnder.refl target children)

theorem AlikeUnder.refl (parent : Target) : ∀ queries : List Query,
    AlikeUnder parent queries queries
  | [] => .nil
  | query :: rest => .same (Alike.refl query) (AlikeUnder.refl parent rest)

end

mutual

theorem Alike.symm {a b : Query} : Alike a b → Alike b a
  | .node under => .node under.symm

theorem AlikeUnder.symm {parent : Target} {as bs : List Query} :
    AlikeUnder parent as bs → AlikeUnder parent bs as
  | .nil => .nil
  | .same alike rest => .same alike.symm rest.symm
  | .twins twins rest => .twins twins.symm rest.symm

end

theorem ColumnOnly.trueJoin?_eq_none {parent : Target} {child : Query}
    (column : ColumnOnly parent child) : trueJoin? parent child = none := by
  rw [trueJoin?]
  rcases column with only | pair
  · rw [if_pos only]
  · obtain ⟨rfl, target⟩ := Prod.mk.inj pair
    rw [target, JoinRule.find?_blockingPids, ite_self]

theorem ColumnTwins.contribution_eq_ok {parent : Target} {a b : Query} {part : Contribution}
    (twins : ColumnTwins parent a b) (added : contribution parent a a.lower = .ok part) :
    contribution parent b b.lower = .ok part := by
  obtain ⟨_, clause, found, item, join⟩ := contribution_eq_ok_iff.mp added
  rw [twins.columnLeft.trueJoin?_eq_none] at join
  rw [twins.target] at found
  refine contribution_eq_ok_iff.mpr ⟨twins.validRight, clause, found, item, ?_⟩
  rw [twins.columnRight.trueJoin?_eq_none]
  exact join

theorem Alike.trueJoin?_eq {a b : Query} (alike : Alike a b) (parent : Target) :
    trueJoin? parent a = trueJoin? parent b := by
  obtain ⟨_⟩ := alike
  rfl

theorem Alike.contribution_eq_ok {parent : Target} {a b : Query} {part : Contribution}
    (alike : Alike a b)
    (lowers : ∀ statement, a.lower = .ok statement → b.lower = .ok statement)
    (added : contribution parent a a.lower = .ok part) :
    contribution parent b b.lower = .ok part := by
  obtain ⟨valid, clause, found, item, join⟩ := contribution_eq_ok_iff.mp added
  rw [alike.trueJoin?_eq parent] at join
  obtain ⟨_⟩ := alike
  refine contribution_eq_ok_iff.mpr ⟨valid, clause, found, item, ?_⟩
  split at join
  · exact join
  · obtain ⟨subquery, below, joined⟩ := join
    exact ⟨subquery, lowers subquery below, joined⟩

mutual

theorem Alike.lower_eq_ok {a b : Query} {statement : Sql.Select} :
    Alike a b → a.lower = .ok statement → b.lower = .ok statement
  | .node under, lowers => by
    obtain ⟨valid, parts, each, level⟩ := lower_eq_ok_iff.mp lowers
    exact lower_eq_ok_iff.mpr ⟨valid, parts, under.contributions_eq_ok each, level⟩

theorem AlikeUnder.contributions_eq_ok {parent : Target} {as bs : List Query}
    {parts : List Contribution} : AlikeUnder parent as bs →
    List.Forall₂ (fun child part => contribution parent child child.lower = .ok part) as parts →
    List.Forall₂ (fun child part => contribution parent child child.lower = .ok part) bs parts
  | .nil, each => each
  | .same alike rest, .cons first each =>
    .cons (alike.contribution_eq_ok (fun _ => alike.lower_eq_ok) first)
      (rest.contributions_eq_ok each)
  | .twins twins rest, .cons first each =>
    .cons (twins.contribution_eq_ok first) (rest.contributions_eq_ok each)

end

/-- Of a child that is not lowered nothing but its target has a part in the text, whatever is below
    it. The whole-tree comparison of signatures still looks inside it, which is why neither tree may
    be refused by that. -/
theorem compile_eq_ok_iff_of_alike {a b : Query} (alike : Alike a b)
    (distinctA : a.isRecursive = false) (distinctB : b.isRecursive = false) (sql : String) :
    a.compile = .ok sql ↔ b.compile = .ok sql := by
  rw [compile_eq_ok_iff, compile_eq_ok_iff]
  rw [isRecursive_eq_false_iff] at distinctA distinctB
  constructor
  · intro compiled
    obtain ⟨_, statement, lowers, text⟩ := compiled
    exact ⟨distinctB, statement, alike.lower_eq_ok lowers, text⟩
  · intro compiled
    obtain ⟨_, statement, lowers, text⟩ := compiled
    exact ⟨distinctA, statement, alike.symm.lower_eq_ok lowers, text⟩

def askedDatabase (blocking locks : Query) : Query :=
  (View.statDatabase.query .postgres13).withChildren
    [(View.statActivity.query .postgres13).withChildren [blocking, locks],
      View.locks.query .postgres13]

def crowdedPids : Query :=
  ((reading .blockingPids ColumnList.Postgres13.lock).withFilter "pid = 1").withChildren
    [unavailable .unspecified, View.statSlru.query .postgres13]

theorem askedDatabase_compile :
    let plain := askedDatabase blockingPids (selecting .locks)
    let crowded := askedDatabase crowdedPids ((selecting .locks).withChild (unavailable .statSsl))
    Alike plain crowded ∧ plain.isRecursive = false ∧ crowded.isRecursive = false ∧
      ∃ sql, plain.compile = .ok sql ∧ crowded.compile = .ok sql := by
  intro plain crowded
  have pids : ColumnTwins .statActivity blockingPids crowdedPids :=
    ⟨rfl, rfl, rfl, .inl rfl, .inr rfl⟩
  have locks : ColumnTwins .statActivity (selecting .locks)
      ((selecting .locks).withChild (unavailable .statSsl)) :=
    ⟨rfl, rfl, rfl, .inl rfl, .inl rfl⟩
  have alike : Alike plain crowded :=
    .node (.same (.node (.twins pids (.twins locks .nil))) (.same (Alike.refl _) .nil))
  have distinctA : plain.isRecursive = false := rfl
  have distinctB : crowded.isRecursive = false := rfl
  have compiled : ∃ sql, plain.compile = .ok sql := ⟨_, rfl⟩
  obtain ⟨sql, compiled⟩ := compiled
  have transfer := compile_eq_ok_iff_of_alike alike distinctA distinctB sql
  exact ⟨alike, distinctA, distinctB, sql, compiled, transfer.mp compiled⟩

end StatTree.Query
