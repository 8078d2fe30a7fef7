import StatTree.Proofs.Outcome
import StatTree.Runner

namespace StatTree

variable {σ τ α : Type}

def Executor.journaled (executor : Executor σ) : Executor (List Sent × σ) :=
  fun sent (journal, state) =>
    let (answer, state) := executor sent state
    (answer, journal ++ [sent], state)

namespace Runner

/-- The statement that is meant for a call: none for a tree that does not compile, and none for an
    operation on the other generation. -/
def intended? (runner : Runner) : Call → Option String
  | .fetch query => query.compile.toOption
  | .tuple address => some address.text
  | .typed operation filter joins =>
    if operation.version = runner.version then
      (((operation.view.view.query runner.version).withFilter filter).withChildren
        joins).compile.toOption
    else none

theorem toOption_statement (runner : Runner) (call : Call) :
    (runner.statement call).toOption = runner.intended? call := by
  cases call with
  | fetch query => rfl
  | tuple address => rfl
  | typed operation filter joins =>
    rw [statement, require, intended?, TypedOperation.query]
    by_cases own : operation.version = runner.version
    · rw [if_pos own, if_pos own, own]
      rfl
    · rw [if_neg own, if_neg own]
      rfl

theorem statement_typed_eq_ok_iff {runner : Runner} {operation : TypedOperation} {filter : String}
    {joins : List Query} {sql : String} :
    runner.statement (.typed operation filter joins) = .ok sql ↔
      operation.version = runner.version ∧ (operation.query filter joins).compile = .ok sql := by
  simp only [statement, require, bind_eq_ok_iff]
  by_cases own : operation.version = runner.version
  · simp [own]
  · simp [own]

def journal (runner : Runner) (calls : List Call) : List Sent :=
  (calls.filterMap runner.intended?).map (Sent.mk runner.context)

variable (runner : Runner) (decode : Row → Except DatabaseError α)

theorem journal_singleton (call : Call) :
    runner.journal [call] = match runner.statement call with
      | .ok sql => [⟨runner.context, sql⟩]
      | .error _ => [] := by
  have meant := runner.toOption_statement call
  cases statement : runner.statement call with
  | error cause =>
    rw [statement] at meant
    rw [journal, List.filterMap_cons_none meant.symm]
    rfl
  | ok sql =>
    rw [statement] at meant
    rw [journal, List.filterMap_cons_some meant.symm]
    rfl

theorem perform_journaled (executor : Executor σ) (call : Call) (journal : List Sent) (state : σ) :
    runner.perform decode executor.journaled call (journal, state) =
      ((runner.perform decode executor call state).1, journal ++ runner.journal [call],
        (runner.perform decode executor call state).2) := by
  rw [perform, perform, journal_singleton]
  cases runner.statement call with
  | error cause => rw [List.append_nil]
  | ok sql => rfl

theorem sent_perform (executor : Executor σ) (call : Call) (state : σ) :
    (runner.perform decode executor call state).1.sent = runner.journal [call] := by
  rw [perform, journal_singleton]
  cases runner.statement call <;> rfl

theorem journal_cons (call : Call) (rest : List Call) :
    runner.journal (call :: rest) = runner.journal [call] ++ runner.journal rest := by
  rw [journal, journal, journal, ← List.map_append, ← List.filterMap_append]
  rfl

theorem performAll_journaled (calls : List (Executor σ × Call)) (journal : List Sent) (state : σ) :
    runner.performAll decode (calls.map (Prod.map Executor.journaled id)) (journal, state) =
      ((runner.performAll decode calls state).1,
        journal ++ runner.journal (calls.map Prod.snd),
        (runner.performAll decode calls state).2) := by
  induction calls generalizing journal state with
  | nil => simp [performAll, Runner.journal]
  | cons served rest ih =>
    obtain ⟨executor, call⟩ := served
    rw [List.map_cons, List.map_cons, journal_cons]
    simp only [performAll, Prod.map, id, perform_journaled, ih, List.append_assoc]

theorem flatMap_sent_performAll (calls : List (Executor σ × Call)) (state : σ) :
    (runner.performAll decode calls state).1.flatMap Outcome.sent =
      runner.journal (calls.map Prod.snd) := by
  induction calls generalizing state with
  | nil => rfl
  | cons served rest ih =>
    obtain ⟨executor, call⟩ := served
    rw [List.map_cons, journal_cons, performAll, List.flatMap_cons, sent_perform, ih]

/-- Executors are given, in order and under the context of the runner, the statements meant for the
    calls, and nothing else, whatever they answer. -/
theorem journal_of_performAll (calls : List (Executor σ × Call)) (state : σ) :
    let kept := runner.performAll decode (calls.map (Prod.map Executor.journaled id)) ([], state)
    kept.2.1 = ((calls.map Prod.snd).filterMap runner.intended?).map (Sent.mk runner.context) ∧
      kept.1.flatMap Outcome.sent = kept.2.1 ∧
      (kept.1, kept.2.2) = runner.performAll decode calls state ∧
      ∀ (others : List (Executor τ × Call)) (other : τ),
        others.map Prod.snd = calls.map Prod.snd →
          (runner.performAll decode (others.map (Prod.map Executor.journaled id))
            ([], other)).2.1 = kept.2.1 := by
  intro kept
  have whole : kept = _ := runner.performAll_journaled decode calls [] state
  have given : kept.2.1 = runner.journal (calls.map Prod.snd) := by rw [whole, List.nil_append]
  refine ⟨given, ?_, ?_, fun others other same => ?_⟩
  · rw [given, whole, flatMap_sent_performAll]
  · rw [whole]
  · rw [performAll_journaled, List.nil_append, same, given]

example :
    (⟨.postgres13, none⟩ : Runner).journal
      [.fetch (.unavailable .unspecified), .typed ⟨.locks, .postgres9⟩ "" [],
        .tuple ⟨"orders", 3, 14⟩] =
      [⟨none, "SELECT row_to_json(orders) FROM orders WHERE ctid = '(3,14)'"⟩] := by decide +kernel

end Runner

end StatTree
