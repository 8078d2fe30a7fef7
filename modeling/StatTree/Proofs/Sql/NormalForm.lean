import StatTree.Proofs.Text.Separated
import StatTree.Sql.Statement
import Mathlib.Data.List.DropRight

namespace StatTree.Sql.Statement

theorem joinsText_eq_join_map (joins : List LeftJoin) :
    joinsText joins = String.join (joins.map fun join => " " ++ join.text) := by
  induction joins with
  | nil => rfl
  | cons join rest ih => rw [joinsText, List.map_cons, String.join_cons, ih]

theorem groupsText_eq_ite (fields : List String) :
    groupsText fields =
      if fields = [] then "" else " GROUP BY " ++ Text.separated ", " fields := by
  cases fields with
  | nil => rfl
  | cons field rest =>
    rw [if_neg (List.cons_ne_nil _ _), groupsText]
    exact List.cons_ne_nil _ _

namespace Step

inductive Kind
  | fields
  | join
  | condition
  | groups
deriving DecidableEq

def kind : Step → Kind
  | .select _ | .addSelect _ => .fields
  | .join _ => .join
  | .filter _ => .condition
  | .groupBy _ => .groups

def selected? : Step → Option (List String)
  | .select fields => some fields
  | _ => none

def added? : Step → Option String
  | .addSelect expression => some expression
  | _ => none

def joined? : Step → Option LeftJoin
  | .join leftJoin => some leftJoin
  | _ => none

def fragment? : Step → Option String
  | .filter fragment => some fragment
  | _ => none

def groups : Step → List String
  | .groupBy fields => fields
  | _ => []

end Step

/-- The fields that were selected last and the expressions that were added after that, or all
    added expressions if no fields were selected. -/
def chosenFields (steps : List Step) : List String :=
  (steps.filterMap Step.selected?).getLast?.getD [] ++
    (steps.rtakeWhile fun step => step.selected?.isNone).filterMap Step.added?

def normal (table : String) (steps : List Step) : Statement :=
  { table
    fields := chosenFields steps
    joins := steps.filterMap Step.joined?
    condition := (steps.filterMap Step.fragment?).getLast?
    groups := steps.flatMap Step.groups }

theorem build_concat (table : String) (steps : List Step) (step : Step) :
    build table (steps ++ [step]) = (build table steps).apply step :=
  List.foldl_concat apply _ step steps

theorem normal_concat (table : String) (steps : List Step) (step : Step) :
    normal table (steps ++ [step]) = (normal table steps).apply step := by
  cases step <;>
    simp [normal, chosenFields, apply, select, addSelect, join, filter, groupBy, Step.selected?,
      Step.added?, Step.joined?, Step.fragment?, Step.groups]

theorem build_eq_normal (table : String) (steps : List Step) :
    build table steps = normal table steps := by
  induction steps using List.reverseRecOn with
  | nil => rfl
  | append_singleton steps step ih => rw [build_concat, normal_concat, ih]

def Agree (kind : Step.Kind) (statement other : Statement) : Prop :=
  match kind with
  | .fields => statement.fields = other.fields
  | .join => statement.joins = other.joins
  | .condition => statement.condition = other.condition
  | .groups => statement.groups = other.groups

variable {kind : Step.Kind} {statement other : Statement}

theorem Agree.apply (agree : Agree kind statement other) (step : Step) :
    Agree kind (statement.apply step) (other.apply step) := by
  cases kind <;> cases step <;>
    simp_all [Agree, Statement.apply, select, addSelect, join, filter, groupBy]

theorem Agree.apply_of_ne (agree : Agree kind statement other) {step : Step}
    (different : step.kind ≠ kind) : Agree kind (statement.apply step) other := by
  cases kind <;> cases step <;> first | exact agree | exact absurd rfl different

theorem agree_build_filter (table : String) (kind : Step.Kind) (steps : List Step) :
    Agree kind (build table steps) (build table (steps.filter (·.kind = kind))) := by
  induction steps using List.reverseRecOn with
  | nil => cases kind <;> rfl
  | append_singleton steps step ih =>
    rw [build_concat, List.filter_append]
    by_cases same : step.kind = kind
    · have kept : [step].filter (·.kind = kind) = [step] := by simp [same]
      rw [kept, build_concat]
      exact ih.apply step
    · have dropped : [step].filter (·.kind = kind) = [] := by simp [same]
      rw [dropped, List.append_nil]
      exact ih.apply_of_ne same

theorem eq_of_agree (table : statement.table = other.table)
    (agree : ∀ kind, Agree kind statement other) : statement = other := by
  obtain ⟨_, _, _, _, _⟩ := statement
  obtain ⟨_, _, _, _, _⟩ := other
  have fields := agree .fields
  have joins := agree .join
  have condition := agree .condition
  have groups := agree .groups
  simp only [Agree] at fields joins condition groups table
  subst table fields joins condition groups
  rfl

theorem build_eq_of_filter_eq (table : String) {steps others : List Step}
    (same : ∀ kind, others.filter (·.kind = kind) = steps.filter (·.kind = kind)) :
    build table others = build table steps := by
  refine eq_of_agree ?_ fun kind => ?_
  · rw [build_eq_normal, build_eq_normal, normal, normal]
  · have left := agree_build_filter table kind others
    have right := agree_build_filter table kind steps
    rw [same kind] at left
    cases kind <;> exact left.trans right.symm

theorem hasJoins_normal_iff {table : String} {steps : List Step} :
    (normal table steps).hasJoins = true ↔ ∃ leftJoin, .join leftJoin ∈ steps := by
  have joined : ∀ step leftJoin, Step.joined? step = some leftJoin ↔ step = .join leftJoin := by
    intro step leftJoin
    cases step <;> simp [Step.joined?]
  unfold hasJoins normal
  constructor
  · intro filled
    cases joins : steps.filterMap Step.joined? with
    | nil => simp [joins] at filled
    | cons leftJoin rest =>
      have member : leftJoin ∈ steps.filterMap Step.joined? := joins ▸ List.mem_cons_self
      obtain ⟨step, inSteps, same⟩ := List.mem_filterMap.mp member
      exact ⟨leftJoin, (joined step leftJoin).mp same ▸ inSteps⟩
  · intro exists_join
    obtain ⟨leftJoin, member⟩ := exists_join
    have : leftJoin ∈ steps.filterMap Step.joined? :=
      List.mem_filterMap.mpr ⟨_, member, rfl⟩
    simpa using List.ne_nil_of_mem this

/-- The text of a statement that was assembled by any steps, clause by clause, and whether it has
    joins. Steps with the same fields, joins, conditions and groups in order make the same
    statement, however the kinds are mixed. -/
theorem text_build (table : String) (steps : List Step) :
    (build table steps).text =
        "SELECT " ++ ", ".intercalate (chosenFields steps) ++ " FROM " ++ table ++
          String.join ((steps.filterMap Step.joined?).map fun join => " " ++ join.text) ++
          ((steps.filterMap Step.fragment?).getLast?.elim "" fun fragment => " WHERE " ++ fragment) ++
          (if steps.flatMap Step.groups = [] then ""
            else " GROUP BY " ++ ", ".intercalate (steps.flatMap Step.groups)) ∧
      ((build table steps).hasJoins = true ↔ ∃ leftJoin, .join leftJoin ∈ steps) ∧
      ∀ others : List Step,
        (∀ kind, others.filter (·.kind = kind) = steps.filter (·.kind = kind)) →
          (build table others).text = (build table steps).text := by
  refine ⟨?_, ?_, fun others same => ?_⟩
  · have condition : conditionText (normal table steps).condition =
        (normal table steps).condition.elim "" fun fragment => " WHERE " ++ fragment := by
      cases (normal table steps).condition <;> rfl
    rw [build_eq_normal, text, condition, joinsText_eq_join_map, groupsText_eq_ite,
      Text.separated_eq_intercalate, Text.separated_eq_intercalate]
    rfl
  · rw [build_eq_normal]
    exact hasJoins_normal_iff
  · rw [build_eq_of_filter_eq table same]

example :
    (build "pg_locks" [.groupBy [], .addSelect "count(l)", .filter "granted", .select ["pid"],
      .filter "", .addSelect "mode"]).text = "SELECT pid, mode FROM pg_locks WHERE " := by
  decide +kernel

end StatTree.Sql.Statement
