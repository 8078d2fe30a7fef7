import Mathlib.Data.List.Forall2
import StatTree.Compile
import StatTree.Proofs.Query.Built
import StatTree.Proofs.Text.Quoted
import StatTree.Proofs.Text.Separated
import StatTree.Views

namespace StatTree

theorem Target.bar_notMem_label (target : Target) : '|' ∉ target.label.toList := by
  cases target <;> decide

theorem Target.find?_label (target : Target) :
    all.find? (fun other => other.label == target.label) = some target := by
  cases target <;> rfl

theorem Target.label_injective {a b : Target} (same : a.label = b.label) : a = b := by
  have found := Target.find?_label a
  rw [same, Target.find?_label b] at found
  exact (Option.some.inj found).symm

theorem Target.label_ne_bracket (target : Target) (left right : List Char) :
    target.label.toList ++ left ≠ ']' :: right := by
  cases target <;> exact nofun

theorem ColumnList.plainName_of_mem_all : ∀ list ∈ all, list.PlainName := by decide +kernel

namespace Query

/-- Two trees agree node by node, with column lists known by name. -/
inductive Same : Query → Query → Prop
  | node {a b : Query} (target : a.target = b.target)
    (columns : a.columns.map ColumnList.name = b.columns.map ColumnList.name)
    (selectOnly : a.selectOnly = b.selectOnly) (filter : a.filter = b.filter)
    (children : List.Forall₂ Same a.children b.children) : Same a b

theorem bar_notMem_columnsName {columns : Option ColumnList}
    (plain : ∀ list ∈ columns, list.PlainName) : '|' ∉ (columnsName columns).toList := by
  cases columns with
  | none => decide
  | some list => exact (plain list rfl).1

theorem columnsName_eq (columns : Option ColumnList) :
    columnsName columns = (columns.map ColumnList.name).getD "none" := by
  cases columns <;> rfl

theorem columnsName_injective {a b : Option ColumnList} (plainA : ∀ list ∈ a, list.PlainName)
    (plainB : ∀ list ∈ b, list.PlainName) (same : columnsName a = columnsName b) :
    a.map ColumnList.name = b.map ColumnList.name := by
  cases a with
  | none =>
    cases b with
    | none => rfl
    | some list => exact absurd same.symm (plainB list rfl).2
  | some list =>
    cases b with
    | none => exact absurd same (plainA list rfl).2
    | some other => exact congrArg some same

theorem bar_notMem_flagText (flag : Bool) : '|' ∉ (flagText flag).toList := by
  cases flag <;> decide

theorem flagText_injective {a b : Bool} (same : flagText a = flagText b) : a = b := by
  cases a <;> cases b <;> first | rfl | exact absurd same (by decide)

theorem filterText_append_injective {a b : Option String} {left right : List Char}
    (ha : a ≠ some "") (hb : b ≠ some "")
    (same : (filterText a).toList ++ left = (filterText b).toList ++ right) :
    a = b ∧ left = right := by
  obtain ⟨texts, rest⟩ := Text.quoted_append_injective same
  refine ⟨?_, rest⟩
  cases a with
  | none =>
    cases b with
    | none => rfl
    | some text => exact absurd (congrArg some texts.symm) hb
  | some text =>
    cases b with
    | none => exact absurd (congrArg some texts) ha
    | some other => exact congrArg some texts

def forestChars (queries : List Query) : List Char :=
  (Text.separated "," (queries.map signature)).toList ++ [']']

theorem signature_append (query : Query) (rest : List Char) :
    query.signature.toList ++ rest =
      query.target.label.toList ++ '|' :: ((columnsName query.columns).toList ++ '|' ::
        ((flagText query.selectOnly).toList ++ '|' :: ((filterText query.filter).toList ++ '[' ::
          (forestChars query.children ++ rest)))) := by
  cases query
  simp [signature, header, forestChars, signatures_eq]

def restChars : List Query → List Char
  | [] => [']']
  | query :: rest => ',' :: forestChars (query :: rest)

theorem forestChars_cons (query : Query) (rest : List Query) :
    forestChars (query :: rest) = query.signature.toList ++ restChars rest := by
  cases rest with
  | nil => rfl
  | cons next rest => simp [forestChars, restChars, Text.separated]

theorem forestChars_cons_ne_bracket (query : Query) (queries : List Query)
    (left right : List Char) : forestChars (query :: queries) ++ left ≠ ']' :: right := by
  rw [forestChars_cons, List.append_assoc, signature_append]
  exact query.target.label_ne_bracket _ _

theorem forestChars_append_injective {as bs : List Query} {left right : List Char}
    (trees : ∀ a ∈ as, ∀ b ∈ bs, ∀ left right : List Char,
      a.signature.toList ++ left = b.signature.toList ++ right → Same a b ∧ left = right)
    (same : forestChars as ++ left = forestChars bs ++ right) :
    List.Forall₂ Same as bs ∧ left = right := by
  induction as generalizing bs with
  | nil =>
    cases bs with
    | nil => exact ⟨.nil, (List.cons.inj same).2⟩
    | cons b bs => exact absurd same.symm (forestChars_cons_ne_bracket b bs right left)
  | cons a as ih =>
    cases bs with
    | nil => exact absurd same (forestChars_cons_ne_bracket a as left right)
    | cons b bs =>
      rw [forestChars_cons, forestChars_cons, List.append_assoc, List.append_assoc] at same
      obtain ⟨first, rests⟩ := trees a List.mem_cons_self b List.mem_cons_self _ _ same
      have below : ∀ x ∈ as, ∀ y ∈ bs, ∀ left right : List Char,
          x.signature.toList ++ left = y.signature.toList ++ right → Same x y ∧ left = right :=
        fun x hx y hy => trees x (List.mem_cons_of_mem _ hx) y (List.mem_cons_of_mem _ hy)
      -- A comma or the closing bracket tells whether another child follows.
      cases as with
      | nil =>
        cases bs with
        | nil => exact ⟨.cons first .nil, (List.cons.inj rests).2⟩
        | cons next bs => exact absurd (List.cons.inj rests).1 (by decide)
      | cons next as =>
        cases bs with
        | nil => exact absurd (List.cons.inj rests).1 (by decide)
        | cons other bs =>
          obtain ⟨others, rest⟩ := ih below (List.cons.inj rests).2
          exact ⟨.cons first others, rest⟩

theorem signature_append_injective {a b : Query} {left right : List Char} (ra : Readable a)
    (rb : Readable b) (same : a.signature.toList ++ left = b.signature.toList ++ right) :
    Same a b ∧ left = right := by
  induction a using node_induction generalizing b left right with
  | node a ih =>
    obtain ⟨plainA, filterA⟩ := ra a (mem_nodes_self a)
    obtain ⟨plainB, filterB⟩ := rb b (mem_nodes_self b)
    rw [signature_append, signature_append] at same
    -- Three parts end at the next bar, which none of them contains.
    obtain ⟨label, same⟩ := Text.append_mark_injective a.target.bar_notMem_label
      b.target.bar_notMem_label same
    obtain ⟨name, same⟩ := Text.append_mark_injective (bar_notMem_columnsName plainA)
      (bar_notMem_columnsName plainB) same
    obtain ⟨flag, same⟩ := Text.append_mark_injective (bar_notMem_flagText a.selectOnly)
      (bar_notMem_flagText b.selectOnly) same
    -- The filter may contain every mark, and ends at its closing quote.
    obtain ⟨filter, same⟩ := filterText_append_injective filterA filterB same
    obtain ⟨children, rest⟩ := forestChars_append_injective
      (fun c hc d hd _ _ equal => ih c hc (ra.child hc) (rb.child hd) equal) (List.cons.inj same).2
    refine ⟨.node (Target.label_injective (String.toList_inj.mp label)) ?_ ?_ filter children, rest⟩
    · exact columnsName_injective plainA plainB (String.toList_inj.mp name)
    · exact flagText_injective (String.toList_inj.mp flag)

theorem map_signature_eq_of_same {as bs : List Query} (same : List.Forall₂ Same as bs)
    (each : ∀ a ∈ as, ∀ b, Same a b → a.signature = b.signature) :
    as.map signature = bs.map signature := by
  induction same with
  | nil => rfl
  | cons first _ ih =>
    rw [List.map_cons, List.map_cons, each _ List.mem_cons_self _ first,
      ih fun a member => each a (List.mem_cons_of_mem _ member)]

theorem Same.signature_eq {a b : Query} (same : Same a b) : a.signature = b.signature := by
  induction a using node_induction generalizing b with
  | node a ih =>
    obtain ⟨target, columns, selectOnly, filter, children⟩ := same
    have name : columnsName a.columns = columnsName b.columns := by
      rw [columnsName_eq, columns, ← columnsName_eq]
    have forest : forestChars a.children = forestChars b.children := by
      rw [forestChars, forestChars, map_signature_eq_of_same children fun c hc d => @ih c hc d]
    have chars := signature_append a []
    rw [target, name, selectOnly, filter, forest, ← signature_append b] at chars
    exact String.toList_inj.mp (by simpa using chars)

theorem Readable.signature_eq_iff {a b : Query} (ra : Readable a) (rb : Readable b) :
    a.signature = b.signature ↔ Same a b := by
  constructor
  · intro same
    have chars : a.signature.toList ++ [] = b.signature.toList ++ [] := by rw [same]
    exact (signature_append_injective ra rb chars).1
  · exact Same.signature_eq

theorem eq_of_forall₂_same {as bs : List Query} (same : List.Forall₂ Same as bs)
    (each : ∀ a ∈ as, ∀ b ∈ bs, Same a b → a = b) : as = bs := by
  induction same with
  | nil => rfl
  | cons first _ ih =>
    rw [each _ List.mem_cons_self _ List.mem_cons_self first,
      ih fun a ha b hb => each a (List.mem_cons_of_mem _ ha) b (List.mem_cons_of_mem _ hb)]

theorem Same.eq {a b : Query} (same : Same a b)
    (lists : ∀ x ∈ a.columnLists, ∀ y ∈ b.columnLists, x.name = y.name → x = y) : a = b := by
  induction a using node_induction generalizing b with
  | node a ih =>
    obtain ⟨target, columns, selectOnly, filter, children⟩ := same
    have list : a.columns = b.columns := by
      cases ha : a.columns with
      | none =>
        rw [ha, Option.map_none, eq_comm, Option.map_eq_none_iff] at columns
        exact columns.symm
      | some x =>
        cases hb : b.columns with
        | none => simp [ha, hb] at columns
        | some y =>
          rw [ha, hb] at columns
          exact congrArg some (lists x (mem_columnLists_self ha) y (mem_columnLists_self hb)
            (Option.some.inj columns))
    have below : a.children = b.children :=
      eq_of_forall₂_same children fun c hc d hd equal => ih c hc equal fun x hx y hy =>
        lists x (mem_columnLists_of_child hc hx) y (mem_columnLists_of_child hd hy)
    cases a
    cases b
    simp_all

theorem beq_iff_signature_eq (a b : Query) : (a == b) = true ↔ a.signature = b.signature := by
  change (a.signature == b.signature) = true ↔ _
  exact beq_iff_eq

/-- Signatures are equal exactly for trees that agree node by node, whatever their filters hold.
    Equal trees then compile alike, where a name stands for one column list. -/
theorem signature_eq_iff_same {a b : Query} (builtA : Built a) (builtB : Built b)
    (plainA : PlainNames a) (plainB : PlainNames b) :
    (a.signature = b.signature ↔ Same a b) ∧ ((a == b) = true ↔ Same a b) ∧
      ((∀ x ∈ a.columnLists, ∀ y ∈ b.columnLists, x.name = y.name →
          x.relation = y.relation ∧ x.columns = y.columns) →
        (a == b) = true → a.compile = b.compile) ∧
      ∀ list ∈ ColumnList.all, list.PlainName := by
  have texts : a.signature = b.signature ↔ Same a b := by
    constructor
    · intro same
      have chars : a.signature.toList ++ [] = b.signature.toList ++ [] := by rw [same]
      exact (signature_append_injective (builtA.readable plainA) (builtB.readable plainB) chars).1
    · exact Same.signature_eq
  refine ⟨texts, (beq_iff_signature_eq a b).trans texts, ?_,
    ColumnList.plainName_of_mem_all⟩
  intro lists same
  have trees : a = b := by
    apply (texts.mp ((beq_iff_signature_eq a b).mp same)).eq
    intro x hx y hy name
    obtain ⟨relation, columns⟩ := lists x hx y hy name
    cases x
    cases y
    simp_all
  rw [trees]

def lockedActivity : Query :=
  (reading .statActivity ColumnList.Postgres13.statActivity).withChildren
    [(reading .locks ColumnList.Postgres13.lock).withFilter "x",
      reading .locksOnTxId ColumnList.Postgres13.lock]

def disguisedActivity : Query :=
  (reading .statActivity ColumnList.Postgres13.statActivity).withChild
    ((reading .locks ColumnList.Postgres13.lock).withFilter
      "x\"[],LocksOnTxId|postgres13::Lock|false|\"")

theorem lockedActivity_signature_ne :
    Built lockedActivity ∧ Built disguisedActivity ∧ PlainNames lockedActivity ∧
      PlainNames disguisedActivity ∧ lockedActivity.signature ≠ disguisedActivity.signature ∧
      (lockedActivity == (lockedActivity.withFilter "y").withFilter "") = true ∧
      lockedActivity.compile = ((lockedActivity.withFilter "y").withFilter "").compile := by
  have built : Built lockedActivity := by
    refine .withChildren (.reading _ _) fun child member => ?_
    simp only [List.mem_cons, List.not_mem_nil, or_false] at member
    rcases member with rfl | rfl
    · exact .withFilter _ (.reading _ _)
    · exact .reading _ _
  have disguised : Built disguisedActivity := by
    refine .withChildren (.reading _ _) fun child member => ?_
    rw [List.mem_singleton] at member
    subst child
    exact .withFilter _ (.reading _ _)
  have plain : PlainNames lockedActivity := by decide
  have plainDisguised : PlainNames disguisedActivity := by decide
  have apart := signature_eq_iff_same built disguised plain plainDisguised
  have again := signature_eq_iff_same built (.withFilter "" (.withFilter "y" built)) plain plain
  have same : (lockedActivity == (lockedActivity.withFilter "y").withFilter "") = true :=
    beq_self_eq_true lockedActivity.signature
  refine ⟨built, disguised, plain, plainDisguised, ?_, same, again.2.2.1 (by decide) same⟩
  intro texts
  cases apart.1.mp texts with
  | node _ _ _ _ children => exact absurd children.length_eq (by decide)

end Query

end StatTree
