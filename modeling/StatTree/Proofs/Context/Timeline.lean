import StatTree.Proofs.Context.DroppedHandles
import StatTree.Proofs.Context.Earliest

namespace StatTree

variable {α : Type}

def Race.Step.time? : Race.Step α → Option Duration
  | .happens time _ => some time
  | .poll _ => none

/-- All that happens around a run that starts at some time. The acts of the handles are those of
    the signal of the context; the handles of a context without a signal are those of some other
    signal. -/
structure Timeline (context : QueryContext) (work : Work α) (handles : Nat)
    (before : List (Duration × HandleAct)) (start : Duration) (during : List (Race.Step α)) :
    Prop where
  ordered : (before.map Prod.fst ++ during.filterMap Race.Step.time?).Pairwise
    (·.nanoseconds < ·.nanoseconds)
  prompt : context.Prompt during
  held : ({ handles } : Channel).Held (before.map Prod.snd ++ during.filterMap Race.Step.act?)
  acted : ∀ signal ∈ context.signal, ∀ time act,
    (time, act) ∈ before ↔ (time, act) ∈ signal ∧ time.nanoseconds ≤ start.nanoseconds
  acts : ∀ signal ∈ context.signal, ∀ time act,
    .happens time (.handle act) ∈ during ↔
      (time, act) ∈ signal ∧ start.nanoseconds < time.nanoseconds
  ended : ∀ time result,
    .happens time (.ended result) ∈ during ↔
      ∃ after, work = .ends after result ∧ time = start.add after
  deadline : ∀ time,
    .happens time .deadline ∈ during ↔ ∃ limit ∈ context.timeout, time = start.add limit

namespace QueryContext

theorem time?_of_endingAt? {context : QueryContext} {step : Race.Step α}
    {outcome : Except ExecutionError α} {time : Duration}
    (ends : context.endingAt? step = some (outcome, time)) : step.time? = some time := by
  cases step with
  | poll => cases ends
  | happens now happening =>
    obtain ⟨_, _, same⟩ := Option.map_eq_some_iff.mp ends
    cases same
    rfl

theorem isFirst_findSome? (context : QueryContext) {during : List (Race.Step α)}
    (ordered : (during.filterMap Race.Step.time?).Pairwise (·.nanoseconds < ·.nanoseconds)) :
    IsFirst (fun outcome time => ∃ step ∈ during, context.endingAt? step = some (outcome, time))
      (during.findSome? context.endingAt?) := by
  rw [List.pairwise_filterMap] at ordered
  induction during with
  | nil => rintro outcome time ⟨step, there, _⟩; cases there
  | cons step rest ih =>
    obtain ⟨first, ordered⟩ := List.pairwise_cons.mp ordered
    rw [List.findSome?_cons]
    cases ends : context.endingAt? step with
    | none =>
      refine (ih ordered).congr fun outcome time => ?_
      simp [ends]
    | some ending =>
      obtain ⟨outcome, time⟩ := ending
      refine ⟨⟨step, List.mem_cons_self, ends⟩, ?_⟩
      rintro other later ⟨next, there, endsLater⟩
      obtain rfl | there := List.mem_cons.mp there
      · rw [ends] at endsLater
        cases endsLater
        exact Nat.le_refl _
      · exact Nat.le_of_lt (first next there time (time?_of_endingAt? ends) later
          (time?_of_endingAt? endsLater))

theorem run_of_isCancelled {context : QueryContext} {start : Duration}
    (cancelled : context.isCancelled start = true) (work : Work α) :
    context.run start work = some (.error .cancelled, start) := by
  rw [run, if_pos cancelled]

end QueryContext

namespace Timeline

variable {context : QueryContext} {work : Work α} {handles : Nat} {start : Duration}
  {before : List (Duration × HandleAct)} {during : List (Race.Step α)}

theorem isCancelled_start (timeline : Timeline context work handles before start during) :
    context.isCancelled start = context.cancelledBy before := by
  rw [Bool.eq_iff_iff, QueryContext.isCancelled_iff, QueryContext.cancelledBy, Bool.and_eq_true,
    List.contains_iff_mem, List.mem_map]
  constructor
  · rintro ⟨signal, there, time, cancel, passed⟩
    exact ⟨Option.isSome_of_mem there, (time, .cancel),
      (timeline.acted signal there time .cancel).mpr ⟨cancel, passed⟩, rfl⟩
  · rintro ⟨cancellable, ⟨time, act⟩, there, rfl⟩
    obtain ⟨signal, known⟩ := Option.isSome_iff_exists.mp cancellable
    obtain ⟨cancel, passed⟩ := (timeline.acted signal known time _).mp there
    exact ⟨signal, known, time, cancel, passed⟩

theorem ends_iff (timeline : Timeline context work handles before start during)
    (begun : context.isCancelled start = false) (outcome : Except ExecutionError α)
    (time : Duration) :
    context.Ends start work outcome time ↔
      ∃ step ∈ during, context.endingAt? step = some (outcome, time) := by
  constructor
  · intro ends
    cases ends with
    | work same =>
      exact ⟨_, (timeline.ended _ _).mpr ⟨_, same, rfl⟩, rfl⟩
    | deadline limited =>
      refine ⟨_, (timeline.deadline _).mpr ⟨_, limited, rfl⟩, ?_⟩
      simp [QueryContext.endingAt?, QueryContext.ending?, limited]
    | cancel there cancel =>
      -- a cancellation that is not later would have kept the run from beginning
      have later : start.nanoseconds < time.nanoseconds := Nat.lt_of_not_le fun passed => by
        have cancelled := QueryContext.isCancelled_iff.mpr ⟨_, there, time, cancel, passed⟩
        cases begun.symm.trans cancelled
      refine ⟨_, (timeline.acts _ there time .cancel).mpr ⟨cancel, later⟩, ?_⟩
      simp [QueryContext.endingAt?, QueryContext.ending?, there]
  · rintro ⟨step, there, found⟩
    cases step with
    | poll => cases found
    | happens now happening =>
      obtain ⟨_, ends, same⟩ := Option.map_eq_some_iff.mp found
      cases same
      cases happening with
      | ended result =>
        cases ends
        obtain ⟨after, same, rfl⟩ := (timeline.ended _ _).mp there
        exact .work same
      | deadline =>
        obtain ⟨limit, limited, rfl⟩ := (timeline.deadline _).mp there
        simp only [QueryContext.ending?, Option.mem_def.mp limited, Option.map_some,
          Option.some.injEq] at ends
        subst ends
        exact .deadline limited
      | handle act =>
        cases act with
        | drop => cases ends
        | cancel =>
          obtain ⟨cancellable, rfl⟩ : context.signal.isSome ∧ .error .cancelled = outcome := by
            simpa [QueryContext.ending?] using ends
          obtain ⟨signal, known⟩ := Option.isSome_iff_exists.mp cancellable
          exact .cancel known ((timeline.acts signal known _ _).mp there).1

theorem eq_of_time (timeline : Timeline context work handles before start during)
    {a b : Race.Step α} (left : a ∈ during) (right : b ∈ during) {time : Duration}
    (here : a.time? = some time) (there : b.time? = some time) : a = b := by
  have ordered := List.pairwise_filterMap.mp (List.pairwise_append.mp timeline.ordered).2.1
  have apart : during.Pairwise fun a b => a.time? = some time → b.time? ≠ some time :=
    ordered.imp fun before here there => Nat.lt_irrefl _ (before time here time there)
  refine List.Pairwise.forall_of_forall_of_flip
    (R := fun a b => a.time? = some time → b.time? = some time → a = b) (fun _ _ _ _ => rfl)
    ?_ ?_ left right here there
  · exact apart.imp fun before here there => absurd there (before here)
  · exact apart.imp fun before there here => absurd there (before here)

theorem run_eq_findSome? (timeline : Timeline context work handles before start during)
    (uncancelled : context.cancelledBy before = false) :
    context.run start work = during.findSome? context.endingAt? := by
  have begun := timeline.isCancelled_start.trans uncancelled
  have steps := context.isFirst_findSome? (List.pairwise_append.mp timeline.ordered).2.1
  refine (QueryContext.isFirst_run begun).unique ?_
    (steps.congr fun outcome time => (timeline.ends_iff begun outcome time).symm)
  intro x y time left right
  obtain ⟨a, inside, endsX⟩ := (timeline.ends_iff begun x time).mp left
  obtain ⟨b, inside', endsY⟩ := (timeline.ends_iff begun y time).mp right
  obtain rfl := timeline.eq_of_time inside inside' (QueryContext.time?_of_endingAt? endsX)
    (QueryContext.time?_of_endingAt? endsY)
  exact congrArg Prod.fst (Option.some.inj (endsX.symm.trans endsY))

/-- A run whose context is cancelled before it starts never polls the work. Any other run ends with
    the first thing that ends it, and the function that computes its end agrees. -/
theorem outcome_polled (timeline : Timeline context work handles before start during) :
    (context.cancelledBy before = true →
      context.polled handles before during = (some (.error .cancelled), 0) ∧
        context.run start work = some (.error .cancelled, start)) ∧
    (context.cancelledBy before = false →
      (context.polled handles before during).1 =
          (during.findSome? context.endingAt?).map Prod.fst ∧
        context.run start work = during.findSome? context.endingAt?) ∧
    (∀ before' during', Thinned (·.2 = .drop) before' before →
      Thinned (·.act? = some .drop) during' during →
      (context.polled handles before' during').1 = (context.polled handles before during).1) ∧
    ∀ signal ∈ context.signal, ∀ time, (time, .cancel) ∈ signal →
      ∀ clone : QueryContext, clone.signal = context.signal →
      ∀ later : Duration, time.nanoseconds ≤ later.nanoseconds →
        clone.isCancelled later = true ∧
        ∀ (β : Type) (next : Work β), clone.run later next = some (.error .cancelled, later) ∧
          ∀ handles' before' during', Timeline clone next handles' before' later during' →
            clone.polled handles' before' during' = (some (.error .cancelled), 0) := by
  refine ⟨fun cancelled => ⟨QueryContext.polled_of_cancelledBy cancelled,
      QueryContext.run_of_isCancelled (timeline.isCancelled_start.trans cancelled) work⟩,
    fun uncancelled => ⟨QueryContext.polled_of_not_cancelledBy uncancelled timeline.prompt
      timeline.held, timeline.run_eq_findSome? uncancelled⟩,
    fun before' during' earlier later =>
      QueryContext.polled_thinned timeline.prompt timeline.held earlier later, ?_⟩
  intro signal there time cancel clone same later passed
  have cancelled : clone.isCancelled later = true :=
    QueryContext.isCancelled_iff.mpr ⟨signal, same.trans there, time, cancel, passed⟩
  refine ⟨cancelled, fun β next => ⟨QueryContext.run_of_isCancelled cancelled next, ?_⟩⟩
  intro handles' before' during' after
  exact QueryContext.polled_of_cancelledBy (after.isCancelled_start.symm.trans cancelled)

def abandoned : QueryContext where
  timeout := some (.ofMilliseconds 50)
  signal := some [(.ofMilliseconds 5, .drop), (.ofMilliseconds 20, .cancel),
    (.ofMilliseconds 25, .drop)]

def abandonedSteps : List (Race.Step Nat) :=
  [.poll false, .happens (.ofMilliseconds 20) (.handle .cancel),
    .happens (.ofMilliseconds 25) (.handle .drop), .poll true,
    .happens (.ofMilliseconds 40) (.ended (.ok 7)), .happens (.ofMilliseconds 60) .deadline]

theorem abandoned_timeline :
    Timeline abandoned (.ends (.ofMilliseconds 30) (.ok 7)) 2 [(.ofMilliseconds 5, .drop)]
      (.ofMilliseconds 10) abandonedSteps where
  ordered := by decide
  prompt := by simp [QueryContext.Prompt, QueryContext.Answered, QueryContext.endingAt?,
    QueryContext.ending?, abandonedSteps, abandoned]
  held := ⟨by decide, by decide, by decide, trivial⟩
  acted := by
    rintro signal ⟨rfl⟩ time act
    simp only [List.mem_cons, List.not_mem_nil, or_false, Prod.mk.injEq]
    constructor
    · rintro ⟨rfl, rfl⟩
      exact ⟨.inl ⟨rfl, rfl⟩, by decide⟩
    · rintro ⟨now | ⟨rfl, rfl⟩ | ⟨rfl, rfl⟩, passed⟩
      · exact now
      all_goals exact absurd passed (by decide)
  acts := by
    rintro signal ⟨rfl⟩ time act
    simp only [abandonedSteps, List.mem_cons, List.not_mem_nil, or_false, Prod.mk.injEq,
      reduceCtorEq, Race.Step.happens.injEq, Happening.handle.injEq, and_false, false_or]
    constructor
    · rintro (⟨rfl, rfl⟩ | ⟨rfl, rfl⟩)
      · exact ⟨.inr (.inl ⟨rfl, rfl⟩), by decide⟩
      · exact ⟨.inr (.inr ⟨rfl, rfl⟩), by decide⟩
    · rintro ⟨⟨rfl, rfl⟩ | later, passed⟩
      · exact absurd passed (by decide)
      · exact later
  ended time result := by
    simp only [abandonedSteps, List.mem_cons, List.not_mem_nil, or_false, reduceCtorEq,
      Race.Step.happens.injEq, Happening.ended.injEq, and_false, false_or, Work.ends.injEq]
    constructor
    · rintro ⟨rfl, rfl⟩
      exact ⟨_, ⟨rfl, rfl⟩, rfl⟩
    · rintro ⟨_, ⟨rfl, rfl⟩, rfl⟩
      exact ⟨rfl, rfl⟩
  deadline time := by
    have late : Duration.ofMilliseconds 60 =
      (Duration.ofMilliseconds 10).add (.ofMilliseconds 50) := rfl
    simp [abandonedSteps, abandoned, late]

theorem outcome_abandoned :
    Timeline abandoned (.ends (.ofMilliseconds 30) (.ok 7)) 2 [(.ofMilliseconds 5, .drop)]
      (.ofMilliseconds 10) abandonedSteps ∧
    (abandoned.polled 2 [(.ofMilliseconds 5, .drop)] abandonedSteps).1 =
      some (.error .cancelled) ∧
    abandoned.run (.ofMilliseconds 10) (.ends (.ofMilliseconds 30) (.ok 7)) =
      some (.error .cancelled, .ofMilliseconds 20) :=
  have outcome := abandoned_timeline.outcome_polled.2.1 rfl
  ⟨abandoned_timeline, outcome⟩

end Timeline

end StatTree
