import StatTree.Error
import Mathlib.Data.List.Chain

namespace StatTree

inductive Failure
  | query (error : QueryError)
  | execution (error : ExecutionError)
  | database (error : DatabaseError)

namespace Failure

def message : Failure → String
  | .query error => error.message
  | .execution error => error.message
  | .database error => error.message

/-- The failure that it came from; one of the database is assumed to have come from none. -/
def source? : Failure → Option Failure
  | .query (.joinFailed _ _ cause) => some (.query cause)
  | .query (.execution _ cause) => some (.execution cause)
  | .query (.rowDecode _ cause) => some (.database cause)
  | .execution (.database cause) => some (.database cause)
  | _ => none

def isJoin : Failure → Bool
  | .query (.joinFailed ..) => true
  | _ => false

end Failure

def Extends (text ending : String) : Prop := ∃ front, front ≠ "" ∧ text = front ++ ending

theorem Extends.append {front ending : String} (filled : front ≠ "") :
    Extends (front ++ ending) ending := ⟨front, filled, rfl⟩

theorem append_ne_empty_of_right {front back : String} (filled : back ≠ "") :
    front ++ back ≠ "" :=
  fun empty => filled (String.append_eq_empty_iff.mp empty).2

namespace QueryError

def joinWords (pair : Target × Target) : String :=
  "converting join query for " ++ pair.2.name ++ " under " ++ pair.1.name ++ ": "

def nested (pairs : List (Target × Target)) (error : QueryError) : QueryError :=
  pairs.foldr (fun pair inner => .joinFailed pair.1 pair.2 inner) error

def lineage : QueryError → List Failure
  | .joinFailed _ _ cause => .query cause :: cause.lineage
  | .execution _ (.database cause) => [.execution (.database cause), .database cause]
  | .execution _ cause => [.execution cause]
  | .rowDecode _ cause => [.database cause]
  | _ => []

theorem message_joinFailed (parent child : Target) (cause : QueryError) :
    (joinFailed parent child cause).message = joinWords (parent, child) ++ cause.message :=
  rfl

theorem joinWords_ne_empty (pair : Target × Target) : joinWords pair ≠ "" :=
  append_ne_empty_of_right (by decide)

theorem rootCause_ne_joinFailed (error : QueryError) (parent child : Target)
    (cause : QueryError) : error.rootCause ≠ .joinFailed parent child cause := by
  induction error with
  | joinFailed _ _ _ ih => exact ih
  | _ => exact nofun

theorem rootCause_rootCause (error : QueryError) :
    error.rootCause.rootCause = error.rootCause := by
  induction error with
  | joinFailed _ _ _ ih => exact ih
  | _ => rfl

theorem nested_joinPath (error : QueryError) : nested error.joinPath error.rootCause = error := by
  induction error with
  | joinFailed parent child _ ih => exact congrArg (joinFailed parent child) ih
  | _ => rfl

theorem message_nested (pairs : List (Target × Target)) (error : QueryError) :
    (nested pairs error).message = String.join (pairs.map joinWords) ++ error.message := by
  induction pairs with
  | nil => simp [nested]
  | cons pair rest ih =>
    obtain ⟨parent, child⟩ := pair
    have inner : nested ((parent, child) :: rest) error =
        .joinFailed parent child (nested rest error) := rfl
    rw [inner, message_joinFailed, ih, List.map_cons, String.join_cons, String.append_assoc]

end QueryError

theorem Failure.extends_of_source? {failure source : Failure}
    (came : failure.source? = some source) : Extends failure.message source.message := by
  have colon : ": " ≠ "" := by decide
  cases failure with
  | query error =>
    cases error with
    | joinFailed parent child cause =>
      cases came
      rw [message, QueryError.message_joinFailed]
      exact .append (QueryError.joinWords_ne_empty _)
    | execution stage cause =>
      cases came
      exact .append (append_ne_empty_of_right colon)
    | rowDecode stage cause =>
      cases came
      exact .append (append_ne_empty_of_right colon)
    | _ => cases came
  | execution error =>
    cases error with
    | database cause =>
      cases came
      exact .append (by decide)
    | _ => cases came
  | database error => cases came

namespace QueryError

theorem isChain_lineage (error : QueryError) :
    (Failure.query error :: error.lineage).IsChain
      fun failure source => failure.source? = some source := by
  induction error with
  | joinFailed _ _ _ ih => exact .cons_cons rfl ih
  | execution stage cause =>
    cases cause with
    | database cause => exact .cons_cons rfl (.cons_cons rfl (.singleton _))
    | _ => exact .cons_cons rfl (.singleton _)
  | rowDecode stage cause => exact .cons_cons rfl (.singleton _)
  | _ => exact .singleton _

theorem source?_getLast_lineage (error : QueryError) :
    ((Failure.query error :: error.lineage).getLast (List.cons_ne_nil _ _)).source? = none := by
  induction error with
  | joinFailed _ _ _ ih => exact ih
  | execution stage cause => cases cause <;> rfl
  | _ => rfl

theorem map_message_lineage (error : QueryError) :
    error.lineage.map Failure.message = error.sources := by
  induction error with
  | joinFailed _ _ cause ih => exact congrArg (cause.message :: ·) ih
  | execution stage cause => cases cause <;> rfl
  | _ => rfl

theorem countP_isJoin_lineage (error : QueryError) :
    (Failure.query error :: error.lineage).countP Failure.isJoin = error.joinPath.length := by
  induction error with
  | joinFailed _ _ _ ih => rw [lineage, List.countP_cons_of_pos rfl, ih, joinPath, List.length_cons]
  | execution stage cause => cases cause <;> rfl
  | _ => rfl

theorem isChain_sources (error : QueryError) :
    (error.message :: error.sources).IsChain Extends := by
  have texts := (isChain_lineage error).imp fun _ _ => Failure.extends_of_source?
  rw [← map_message_lineage]
  exact List.isChain_map Failure.message |>.mpr texts

/-- The text of an error is the words of the failed joins, outermost first, and then the text of its
    root cause. Along what it came from every text is a proper ending of the one before. -/
theorem message_eq_joinWords (error : QueryError) :
    (∀ parent child cause, error.rootCause ≠ .joinFailed parent child cause) ∧
      error.rootCause.rootCause = error.rootCause ∧
      error = nested error.joinPath error.rootCause ∧
      error.message = String.join (error.joinPath.map joinWords) ++ error.rootCause.message ∧
      ((Failure.query error :: error.lineage).IsChain
        fun failure source => failure.source? = some source) ∧
      ((Failure.query error :: error.lineage).getLast (List.cons_ne_nil _ _)).source? = none ∧
      error.lineage.map Failure.message = error.sources ∧
      (error.message :: error.sources).IsChain Extends ∧
      (Failure.query error :: error.lineage).countP Failure.isJoin = error.joinPath.length := by
  have whole := nested_joinPath error
  refine ⟨error.rootCause_ne_joinFailed, error.rootCause_rootCause, whole.symm, ?_,
    error.isChain_lineage, error.source?_getLast_lineage, error.map_message_lineage,
    error.isChain_sources, error.countP_isJoin_lineage⟩
  rw [← message_nested, whole]

example :
    (joinFailed .statActivity .locks
      (joinFailed .locks .statSlru (.execution "querying rows" (.database (.protocol "eof"))))).sources
        = ["converting join query for pg_stat_slru under pg_locks: querying rows: Database error: " ++
            "encountered unexpected or invalid data: eof",
          "querying rows: Database error: encountered unexpected or invalid data: eof",
          "Database error: encountered unexpected or invalid data: eof",
          "encountered unexpected or invalid data: eof"] := by decide +kernel

end QueryError

end StatTree
