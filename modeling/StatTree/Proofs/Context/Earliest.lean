import StatTree.Context

namespace StatTree

variable {α : Type}

/-- The earliest of what may happen, with what it leads to; none if nothing may. -/
def IsFirst {β : Type} (may : β → Duration → Prop) : Option (β × Duration) → Prop
  | some (outcome, time) =>
    may outcome time ∧ ∀ other later, may other later → time.nanoseconds ≤ later.nanoseconds
  | none => ∀ outcome time, ¬ may outcome time

def sooner {β : Type} : Option (β × Duration) → Option (β × Duration) → Option (β × Duration)
  | some a, some b => some (if b.2.nanoseconds < a.2.nanoseconds then b else a)
  | some a, none => some a
  | none, b => b

namespace IsFirst

variable {β : Type} {may can : β → Duration → Prop} {a b : Option (β × Duration)}

theorem unique (untied : ∀ x y time, may x time → may y time → x = y)
    (left : IsFirst may a) (right : IsFirst may b) : a = b := by
  match a, b with
  | none, none => rfl
  | none, some (y, v) => exact absurd right.1 (left y v)
  | some (x, u), none => exact absurd left.1 (right x u)
  | some (x, u), some (y, v) =>
    obtain rfl : u = v := congrArg Duration.mk
      (Nat.le_antisymm (left.2 y v right.1) (right.2 x u left.1))
    rw [untied x y u left.1 right.1]

theorem congr (first : IsFirst may a) (same : ∀ outcome time, may outcome time ↔ can outcome time) :
    IsFirst can a := by
  obtain rfl : may = can := funext fun outcome => funext fun time => propext (same outcome time)
  exact first

theorem self : IsFirst (fun outcome time => a = some (outcome, time)) a := by
  match a with
  | none => exact fun _ _ found => nomatch found
  | some (outcome, time) =>
    refine ⟨rfl, fun other later found => ?_⟩
    cases found
    exact Nat.le_refl _

theorem sooner (left : IsFirst may a) (right : IsFirst can b) :
    IsFirst (fun outcome time => may outcome time ∨ can outcome time) (sooner a b) := by
  match a, b with
  | none, none =>
    rintro x u (happens | happens)
    · exact left x u happens
    · exact right x u happens
  | none, some (y, v) =>
    refine ⟨.inr right.1, ?_⟩
    rintro x u (happens | happens)
    · exact absurd happens (left x u)
    · exact right.2 x u happens
  | some (x, u), none =>
    refine ⟨.inl left.1, ?_⟩
    rintro y v (happens | happens)
    · exact left.2 y v happens
    · exact absurd happens (right y v)
  | some (x, u), some (y, v) =>
    rw [StatTree.sooner]
    split
    · rename_i before
      refine ⟨.inr right.1, ?_⟩
      rintro z w (happens | happens)
      · exact Nat.le_trans (Nat.le_of_lt before) (left.2 z w happens)
      · exact right.2 z w happens
    · rename_i before
      refine ⟨.inl left.1, ?_⟩
      rintro z w (happens | happens)
      · exact left.2 z w happens
      · exact Nat.le_trans (Nat.le_of_not_lt before) (right.2 z w happens)

end IsFirst

def Work.end? (start : Duration) : Work α → Option (Except ExecutionError α × Duration)
  | .ends after result => some (result.mapError .database, start.add after)
  | .never => none

namespace QueryContext

variable {context : QueryContext} {start : Duration} {work : Work α}

inductive Ends (context : QueryContext) (start : Duration) (work : Work α) :
    Except ExecutionError α → Duration → Prop
  | work {after : Duration} {result : Except DatabaseError α} :
    work = .ends after result → Ends context start work (result.mapError .database) (start.add after)
  | deadline {limit : Duration} :
    context.timeout = some limit →
    Ends context start work (.error (.timedOut limit)) (start.add limit)
  | cancel {signal : Signal} {time : Duration} :
    context.signal = some signal → (time, .cancel) ∈ signal →
    Ends context start work (.error .cancelled) time

theorem untilDeadline_eq_sooner (timeout : Option Duration) :
    untilDeadline timeout start work = sooner (work.end? start)
      (timeout.map fun limit => (.error (.timedOut limit), start.add limit)) := by
  cases work with
  | never => cases timeout <;> rfl
  | ends after result =>
    cases timeout with
    | none => rfl
    | some limit =>
      simp only [untilDeadline, Work.end?, Option.map_some, sooner, Duration.add,
        Nat.add_lt_add_iff_left]
      split <;> split <;> first | rfl | omega

theorem map_earlier {β : Type} (outcome : β) (a b : Option Duration) :
    (earlier a b).map (outcome, ·) = sooner (a.map (outcome, ·)) (b.map (outcome, ·)) := by
  match a, b with
  | none, none | none, some _ | some _, none => rfl
  | some a, some b =>
    simp only [earlier, Option.map_some, sooner]
    split <;> split <;> first | rfl | omega

theorem isFirst_firstCancel {β : Type} (outcome : β) (signal : Signal) :
    IsFirst (fun other time => other = outcome ∧ (time, .cancel) ∈ signal)
      ((firstCancel signal).map (outcome, ·)) := by
  induction signal with
  | nil => exact fun _ _ cancel => nomatch cancel.2
  | cons act rest ih =>
    obtain ⟨now, _ | _⟩ := act
    · rw [firstCancel, map_earlier]
      refine (IsFirst.self.sooner ih).congr fun other time => ?_
      simp only [Option.map_some, Option.some.injEq, Prod.mk.injEq, List.mem_cons, and_true]
      grind
    · exact ih.congr fun other time => by simp

theorem isFirst_cancelTime {β : Type} (outcome : β) (context : QueryContext) :
    IsFirst (fun other time => other = outcome ∧ ∃ signal ∈ context.signal, (time, .cancel) ∈ signal)
      (context.cancelTime.map (outcome, ·)) := by
  rw [cancelTime]
  cases context.signal with
  | none =>
    rintro other time ⟨_, signal, none, _⟩
    cases none
  | some signal => exact (isFirst_firstCancel outcome signal).congr fun other time => by simp

theorem isCancelled_iff {now : Duration} :
    context.isCancelled now = true ↔ ∃ signal ∈ context.signal, ∃ time,
      (time, .cancel) ∈ signal ∧ time.nanoseconds ≤ now.nanoseconds := by
  have first := isFirst_cancelTime () context
  rw [isCancelled]
  cases found : context.cancelTime with
  | none =>
    rw [found] at first
    refine ⟨(nomatch ·), ?_⟩
    rintro ⟨signal, there, time, cancel, _⟩
    exact absurd ⟨rfl, signal, there, cancel⟩ (first () time)
  | some time =>
    rw [found] at first
    obtain ⟨⟨-, signal, there, cancel⟩, least⟩ := first
    refine ⟨fun cancelled => ⟨signal, there, time, cancel, of_decide_eq_true cancelled⟩, ?_⟩
    rintro ⟨signal, there, earlier, cancel, passed⟩
    exact decide_eq_true (Nat.le_trans (least () earlier ⟨rfl, signal, there, cancel⟩) passed)

theorem run_eq_sooner (begun : context.isCancelled start = false) :
    context.run start work = sooner (untilDeadline context.timeout start work)
      (context.cancelTime.map (.error .cancelled, ·)) := by
  rw [run, begun, if_neg Bool.false_ne_true]
  cases untilDeadline context.timeout start work <;> cases context.cancelTime
  case some.some => simp only [Option.map_some, sooner]; split <;> rfl
  all_goals rfl

theorem isFirst_run (begun : context.isCancelled start = false) :
    IsFirst (context.Ends start work) (context.run start work) := by
  rw [run_eq_sooner begun, untilDeadline_eq_sooner]
  refine ((IsFirst.self.sooner IsFirst.self).sooner (isFirst_cancelTime _ context)).congr ?_
  intro outcome time
  constructor
  · rintro ((ended | passed) | ⟨rfl, signal, there, cancel⟩)
    · cases work with
      | never => cases ended
      | ends after result => cases ended; exact .work rfl
    · obtain ⟨limit, limited, same⟩ := Option.map_eq_some_iff.mp passed
      cases same
      exact .deadline limited
    · exact .cancel there cancel
  · rintro (⟨rfl⟩ | limited | ⟨there, cancel⟩)
    · exact .inl (.inl rfl)
    · exact .inl (.inr (congrArg (Option.map _) limited))
    · exact .inr ⟨rfl, _, there, cancel⟩

end QueryContext

end StatTree
