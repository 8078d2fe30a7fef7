import StatTree.Proofs.Sql.Names

namespace StatTree.Sql

open Text

theorem LeftJoin.toList_text (join : LeftJoin) :
    join.text.toList = "LEFT JOIN (".toList ++ (join.subquery.toList ++ ')' ::
      (" AS ".toList ++ (join.asName.toList ++ (" ON ".toList ++ join.condition.toList)))) := by
  simp only [text, String.toList_append, List.append_assoc]
  rfl

theorem SelectItem.asName_eq_of_text_eq {first second output other : String} (hf : IsName first)
    (hs : IsName second) (same : (array first output).text = (array second other).text) :
    first = second := by
  have closing : ") = 0 THEN '[]' ELSE json_agg(".toList =
      ')' :: " = 0 THEN '[]' ELSE json_agg(".toList := by decide
  have chars := congrArg String.toList same
  simp only [text_array, String.toList_append, List.append_assoc, closing] at chars
  have after := List.append_cancel_left chars
  exact String.toList_inj.mp
    (append_mark_injective (hf.notMem (by decide)) (hs.notMem (by decide)) after).1

theorem Statement.conditionText_injective {a b : Option String}
    (same : conditionText a = conditionText b) : a = b := by
  have opening (fragment : String) : conditionText (some fragment) ≠ "" :=
    fun empty => absurd (String.append_eq_empty_iff.mp empty).1 (by decide)
  cases a with
  | none =>
    cases b with
    | none => rfl
    | some fragment => exact absurd same.symm (opening fragment)
  | some fragment =>
    cases b with
    | none => exact absurd same (opening fragment)
    | some other =>
      have chars := congrArg String.toList same
      simp only [conditionText, String.toList_append] at chars
      rw [String.toList_inj.mp (List.append_cancel_left chars)]

theorem Statement.balanced_joinsText {joins : List LeftJoin}
    (texts : ∀ join ∈ joins, Balanced join.text.toList) : Balanced (joinsText joins).toList := by
  induction joins with
  | nil => decide
  | cons join rest ih =>
    rw [joinsText, String.toList_append, String.toList_append]
    refine .append (.append (by decide) (texts join List.mem_cons_self)) ?_
    exact ih fun other member => texts other (List.mem_cons_of_mem _ member)

theorem Statement.balanced_conditionText {condition : Option String}
    (texts : ∀ fragment ∈ condition, Balanced fragment.toList) :
    Balanced (conditionText condition).toList := by
  cases condition with
  | none => decide
  | some fragment =>
    rw [conditionText, String.toList_append]
    exact .append (by decide) (texts fragment rfl)

theorem Statement.balanced_groupsText {groups : List String}
    (texts : ∀ text ∈ groups, Balanced text.toList) : Balanced (groupsText groups).toList := by
  cases groups with
  | nil => decide
  | cons text rest =>
    show Balanced (" GROUP BY " ++ separated ", " (text :: rest)).toList
    rw [String.toList_append]
    exact .append (by decide) (balanced_separated (by decide) texts)

namespace Select

def tail (level : Select) : String :=
  Statement.joinsText (level.joins.map leftJoin) ++ Statement.conditionText level.filter ++
    Statement.groupsText (level.groupBy.map Column.text)

theorem text_eq_tail (level : Select) :
    level.text = "SELECT " ++ separated ", " (level.items.map SelectItem.text) ++ " FROM " ++
      level.table ++ level.tail := by
  rw [text_eq, tail]
  simp only [String.append_assoc]

theorem exists_tail_blank (level : Select) : ∃ more, level.tail.toList ++ [' '] = ' ' :: more := by
  rw [tail]
  cases level.joins with
  | cons joined rest =>
    rw [List.map_cons, Statement.joinsText]
    simp only [String.toList_append]
    exact ⟨_, rfl⟩
  | nil =>
    cases level.filter with
    | some fragment =>
      rw [Statement.conditionText]
      simp only [String.toList_append]
      exact ⟨_, rfl⟩
    | none =>
      cases level.groupBy with
      | nil => exact ⟨[], rfl⟩
      | cons column rest =>
        rw [List.map_cons, Statement.groupsText]
        simp only [String.toList_append]
        exact ⟨_, rfl⟩
        nofun

/-- No `F` stands in a select list, so that the first one is that of the `FROM` after it. -/
theorem Named.notMem_fields {level : Select} (named : level.Named) :
    'F' ∉ (separated ", " (level.items.map SelectItem.text)).toList ++ [' '] := by
  rw [List.mem_append, not_or]
  refine ⟨fun member => ?_, by decide⟩
  rcases mem_toList_separated member with inSeparator | ⟨text, inFields, inText⟩
  · exact absurd inSeparator (by decide)
  · obtain ⟨item, inItems, rfl⟩ := List.mem_map.mp inFields
    exact (named.items item inItems).notMem_text (by decide) (by decide) inText

theorem Named.fields_plain {level : Select} (named : level.Named) :
    ∀ text ∈ level.items.map SelectItem.text, ',' ∉ text.toList ∧ text ≠ "" := by
  intro text member
  obtain ⟨item, inItems, rfl⟩ := List.mem_map.mp member
  have plain := named.items item inItems
  exact ⟨plain.notMem_text (by decide) (by decide), plain.text_ne_empty⟩

theorem toList_text (level : Select) :
    level.text.toList = "SELECT ".toList ++
      ((separated ", " (level.items.map SelectItem.text)).toList ++ [' '] ++
        'F' :: ("ROM ".toList ++ (level.table.toList ++ level.tail.toList))) := by
  rw [text_eq_tail]
  simp only [String.toList_append, List.append_assoc]
  rfl

theorem head_eq_of_text_eq {a b : Select} (namedA : a.Named) (namedB : b.Named)
    (same : a.text = b.text) :
    a.items.map SelectItem.text = b.items.map SelectItem.text ∧ a.table = b.table ∧
      a.tail = b.tail := by
  have chars := congrArg String.toList same
  rw [toList_text, toList_text] at chars
  obtain ⟨fields, rest⟩ := append_mark_injective namedA.notMem_fields namedB.notMem_fields
    (List.append_cancel_left chars)
  have after := List.append_cancel_left rest
  obtain ⟨moreA, blankA⟩ := a.exists_tail_blank
  obtain ⟨moreB, blankB⟩ := b.exists_tail_blank
  have spaced : a.table.toList ++ ' ' :: moreA = b.table.toList ++ ' ' :: moreB := by
    rw [← blankA, ← blankB, ← List.append_assoc, ← List.append_assoc, after]
  obtain ⟨table, more⟩ := append_mark_injective (namedA.table.notMem (by decide))
    (namedB.table.notMem (by decide)) spaced
  refine ⟨?_, String.toList_inj.mp table, ?_⟩
  · exact separated_injective rfl namedA.fields_plain namedB.fields_plain
      (String.toList_inj.mp (List.append_cancel_right fields))
  · rw [table] at after
    exact String.toList_inj.mp (List.append_cancel_left after)

/-- Where the rules of the joins are known, the subqueries can be read back: each ends where the
    parenthesis before it closes. -/
theorem subqueries_eq_of_joinsText_eq {as bs : List (Joined Select)} {left right : String}
    (rules : as.map Joined.rule = bs.map Joined.rule)
    (matchA : ∀ joined ∈ as, Balanced joined.subquery.text.toList)
    (matchB : ∀ joined ∈ bs, Balanced joined.subquery.text.toList)
    (same : Statement.joinsText (as.map leftJoin) ++ left =
      Statement.joinsText (bs.map leftJoin) ++ right) :
    as.map (fun joined => joined.subquery.text) = bs.map (fun joined => joined.subquery.text) ∧
      left = right := by
  induction as generalizing bs with
  | nil =>
    rw [List.map_nil, eq_comm, List.map_eq_nil_iff] at rules
    subst rules
    exact ⟨rfl, by simpa [Statement.joinsText] using same⟩
  | cons first rest ih =>
    cases bs with
    | nil => cases rules
    | cons other others =>
      obtain ⟨rule, rules⟩ := List.cons.inj rules
      have chars := congrArg String.toList same
      simp only [List.map_cons, Statement.joinsText, leftJoin_eq, String.toList_append,
        LeftJoin.toList_text, rule, List.append_assoc, List.cons_append] at chars
      obtain ⟨subquery, after⟩ := (matchA first List.mem_cons_self).append_close_injective
        (matchB other List.mem_cons_self)
        (List.append_cancel_left (List.append_cancel_left chars))
      -- The alias and the condition after the parenthesis are those of one rule, and fall away.
      have more := List.append_cancel_left (List.append_cancel_left
        (List.append_cancel_left (List.append_cancel_left after)))
      rw [← String.toList_append, ← String.toList_append, String.toList_inj] at more
      obtain ⟨subqueries, ends⟩ := ih rules
        (fun joined member => matchA joined (List.mem_cons_of_mem _ member))
        (fun joined member => matchB joined (List.mem_cons_of_mem _ member)) more
      refine ⟨?_, ends⟩
      rw [List.map_cons, List.map_cons, subqueries, String.toList_inj.mp subquery]

theorem subqueries_eq_of_tail_eq {a b : Select}
    (rules : a.joins.map Joined.rule = b.joins.map Joined.rule) (groupBy : a.groupBy = b.groupBy)
    (matchA : ∀ joined ∈ a.joins, Balanced joined.subquery.text.toList)
    (matchB : ∀ joined ∈ b.joins, Balanced joined.subquery.text.toList) (same : a.tail = b.tail) :
    a.joins.map (fun joined => joined.subquery.text) =
      b.joins.map (fun joined => joined.subquery.text) ∧ a.filter = b.filter := by
  rw [tail, tail, groupBy, String.append_assoc, String.append_assoc] at same
  obtain ⟨subqueries, rest⟩ := subqueries_eq_of_joinsText_eq rules matchA matchB same
  exact ⟨subqueries, Statement.conditionText_injective ((String.append_left_inj _).mp rest)⟩

theorem balanced_leftJoin {joined : Joined Select} (asName : IsName joined.rule.asName)
    (left : joined.rule.left.Named) (right : joined.rule.right.Named)
    (subquery : Balanced joined.subquery.text.toList) :
    Balanced (leftJoin joined).text.toList := by
  have opening : Text.depth? 0 "LEFT JOIN (".toList = some 1 := by decide
  have closing : Text.depth? 1 ") AS ".toList = some 0 := by decide
  have on : Text.depth? 0 " ON ".toList = some 0 := by decide
  have equals : Text.depth? 0 " = ".toList = some 0 := by decide
  rw [balanced_iff_depth?, leftJoin_eq]
  simp only [LeftJoin.text, JoinRule.condition, String.toList_append, depth?_append, opening,
    subquery.depth?, closing, asName.balanced.depth?, on, left.depth?, equals, right.depth?,
    Option.bind_some]

theorem Named.balanced_joinsText {level : Select} (named : level.Named)
    (subqueries : ∀ joined ∈ level.joins, Balanced joined.subquery.text.toList) :
    Balanced (Statement.joinsText (level.joins.map leftJoin)).toList := by
  have texts : ∀ join ∈ level.joins.map leftJoin, Balanced join.text.toList := by
    intro join member
    obtain ⟨joined, inJoins, rfl⟩ := List.mem_map.mp member
    obtain ⟨asName, left, right⟩ := named.joins joined inJoins
    exact balanced_leftJoin asName left right (subqueries joined inJoins)
  exact Statement.balanced_joinsText texts

theorem Named.balanced_text {level : Select} (named : level.Named)
    (subqueries : ∀ joined ∈ level.joins, Balanced joined.subquery.text.toList)
    (filter : ∀ fragment ∈ level.filter, Balanced fragment.toList) :
    Balanced level.text.toList := by
  have fields : Balanced (separated ", " (level.items.map SelectItem.text)).toList := by
    refine balanced_separated (by decide) fun text member => ?_
    obtain ⟨item, inItems, rfl⟩ := List.mem_map.mp member
    exact (named.items item inItems).balanced
  have groups : ∀ text ∈ level.groupBy.map Column.text, Balanced text.toList := by
    intro text member
    obtain ⟨column, inGroups, rfl⟩ := List.mem_map.mp member
    exact balanced_iff_depth?.mpr ((named.groupBy column inGroups).depth? 0)
  rw [text_eq]
  simp only [String.toList_append]
  refine .append (.append (.append (.append (.append (.append ?_ fields) ?_) ?_) ?_) ?_) ?_
  · decide
  · decide
  · exact named.table.balanced
  · exact named.balanced_joinsText subqueries
  · exact Statement.balanced_conditionText filter
  · exact Statement.balanced_groupsText groups

end Select

end StatTree.Sql
