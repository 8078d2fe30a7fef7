import StatTree.Context.Polling

namespace StatTree

variable {α : Type}

def Race.Step.act? : Race.Step α → Option HandleAct
  | .happens _ (.handle act) => some act
  | _ => none

def Channel.Held : Channel → List HandleAct → Prop
  | _, [] => True
  | channel, act :: rest => 0 < channel.handles ∧ (channel.after act).Held rest

namespace Channel

theorem Held.after_all {earlier later : List HandleAct} {channel : Channel}
    (held : channel.Held (earlier ++ later)) : (earlier.foldl after channel).Held later := by
  induction earlier generalizing channel with
  | nil => exact held
  | cons act rest ih => exact ih held.2

theorem cancelled_foldl (channel : Channel) (acts : List HandleAct) :
    (acts.foldl after channel).cancelled = (channel.cancelled || acts.contains .cancel) := by
  induction acts generalizing channel with
  | nil => simp
  | cons act rest ih =>
    rw [List.foldl_cons, ih]
    cases act <;> simp [after]

end Channel

namespace QueryContext

def ending? (context : QueryContext) : Happening α → Option (Except ExecutionError α)
  | .ended result => some (result.mapError .database)
  | .deadline => context.timeout.map fun limit => .error (.timedOut limit)
  | .handle .cancel => if context.signal.isSome then some (.error .cancelled) else none
  | .handle .drop => none

def endingAt? (context : QueryContext) :
    Race.Step α → Option (Except ExecutionError α × Duration)
  | .happens time happening => (context.ending? happening).map (·, time)
  | .poll _ => none

def Answered (context : QueryContext) : List (Race.Step α) → Prop
  | [] => False
  | .poll _ :: _ => True
  | .happens _ happening :: rest => context.ending? happening = none ∧ context.Answered rest

/-- The first thing that ends a run is answered by a poll before anything else that does. -/
def Prompt (context : QueryContext) : List (Race.Step α) → Prop
  | [] => True
  | step :: rest =>
    if (context.endingAt? step).isSome then context.Answered rest else context.Prompt rest

end QueryContext

namespace Race

variable {race : Race α} {context : QueryContext}

def again (race : Race α) : Race α :=
  { race with
    listening := race.listening && race.channel.all (0 < ·.handles)
    polls := race.polls + 1 }

theorem pollSignal_of_quiet (quiet : ∀ channel ∈ race.channel, channel.cancelled = false) :
    race.pollSignal =
      (none, { race with listening := race.listening && race.channel.all (0 < ·.handles) }) := by
  obtain ⟨timeout, channel, listening, result, late, polls⟩ := race
  cases channel with
  | none => simp [pollSignal]
  | some channel =>
    have silent := quiet channel rfl
    cases listening <;> by_cases gone : channel.handles = 0 <;>
      simp [pollSignal, silent, gone, Nat.pos_iff_ne_zero]

structure Under (context : QueryContext) (race : Race α) : Prop where
  timeout : race.timeout = context.timeout
  signal : race.channel.isSome = context.signal.isSome

theorem Under.meet (under : race.Under context) (happening : Happening α) :
    (race.meet happening).Under context := by
  cases happening with
  | ended | deadline => exact ⟨under.timeout, under.signal⟩
  | handle act => exact ⟨under.timeout, Option.isSome_map.trans under.signal⟩

theorem Under.bounded_meet (under : race.Under context) {happening : Happening α}
    (goesOn : context.ending? happening = none) : (race.meet happening).bounded = race.bounded := by
  cases happening with
  | ended result => cases goesOn
  | handle act => rfl
  | deadline =>
    have unlimited : race.timeout = none :=
      under.timeout.trans (by simpa [QueryContext.ending?] using goesOn)
    cases result : race.result <;> simp [bounded, Race.meet, unlimited, result]

theorem Under.mem_channel_meet (under : race.Under context) {happening : Happening α}
    (goesOn : context.ending? happening = none) {channel : Channel}
    (there : channel ∈ (race.meet happening).channel) :
    ∃ old ∈ race.channel,
      channel.cancelled = old.cancelled ∧ channel.handles ≤ old.handles := by
  cases happening with
  | ended | deadline => exact ⟨channel, there, rfl, Nat.le_refl _⟩
  | handle act =>
    obtain ⟨old, member, rfl⟩ := Option.map_eq_some_iff.mp there
    cases act with
    | drop => exact ⟨old, member, rfl, Nat.sub_le _ _⟩
    | cancel =>
      have cancellable : context.signal.isSome := by rw [← under.signal, member]; rfl
      simp [QueryContext.ending?, cancellable] at goesOn

/-- A run that goes on: nothing has happened that ends it, and it listens to its signal as long as
    there is a handle to use it. -/
structure Waiting (context : QueryContext) (race : Race α) : Prop extends race.Under context where
  pending : race.bounded = none
  quiet : ∀ channel ∈ race.channel, channel.cancelled = false
  listens : ∀ channel ∈ race.channel, 0 < channel.handles → race.listening = true

theorem Waiting.poll (waiting : race.Waiting context) (signalFirst : Bool) :
    race.poll signalFirst = (none, race.again) := by
  have work : ∀ listening, { race with listening }.pollWork =
      (none, { race with listening, polls := race.polls + 1 }) :=
    fun _ => congrArg (·, _) waiting.pending
  cases signalFirst with
  | true =>
    rw [Race.poll, if_pos rfl, either, pollSignal_of_quiet waiting.quiet]
    exact work _
  | false =>
    rw [Race.poll, if_neg Bool.false_ne_true, either, work race.listening]
    exact @pollSignal_of_quiet _ { race with polls := race.polls + 1 } waiting.quiet

theorem Waiting.again (waiting : race.Waiting context) : race.again.Waiting context where
  timeout := waiting.timeout
  signal := waiting.signal
  pending := waiting.pending
  quiet := waiting.quiet
  listens channel member left := by
    have member : race.channel = some channel := member
    simp [Race.again, waiting.listens channel member left, member, left]

theorem Waiting.meet (waiting : race.Waiting context) {happening : Happening α}
    (goesOn : context.ending? happening = none) : (race.meet happening).Waiting context where
  toUnder := waiting.toUnder.meet happening
  pending := (waiting.bounded_meet goesOn).trans waiting.pending
  quiet channel there := by
    obtain ⟨old, member, same, -⟩ := waiting.mem_channel_meet goesOn there
    exact same.trans (waiting.quiet old member)
  listens channel there left := by
    obtain ⟨old, member, -, fewer⟩ := waiting.mem_channel_meet goesOn there
    have listening := waiting.listens old member (Nat.lt_of_lt_of_le left fewer)
    cases happening <;> exact listening

/-- A run whose outcome the next poll finds: the work or the deadline is over and nobody has
    cancelled, or somebody has while it listened and neither is over. -/
inductive Settled (race : Race α) : Except ExecutionError α → Prop
  | bounded {outcome : Except ExecutionError α} :
    race.bounded = some outcome → (∀ channel ∈ race.channel, channel.cancelled = false) →
    race.Settled outcome
  | cancelled {channel : Channel} :
    race.bounded = none → race.listening = true → race.channel = some channel →
    channel.cancelled = true → race.Settled (.error .cancelled)

theorem Settled.poll {outcome : Except ExecutionError α} (settled : race.Settled outcome)
    (signalFirst : Bool) : (race.poll signalFirst).1 = some outcome := by
  cases settled with
  | bounded ready quiet =>
    cases signalFirst with
    | true =>
      rw [Race.poll, if_pos rfl, either, pollSignal_of_quiet quiet]
      exact ready
    | false => rw [Race.poll, if_neg Bool.false_ne_true, either, pollWork, ready]
  | cancelled pending listening signal cancelled =>
    cases signalFirst <;>
      simp [Race.poll, either, pollWork, pollSignal, pending, listening, signal, cancelled]

theorem Settled.meet {outcome : Except ExecutionError α} (settled : race.Settled outcome)
    (under : race.Under context) {happening : Happening α}
    (goesOn : context.ending? happening = none) : (race.meet happening).Settled outcome := by
  cases settled with
  | bounded ready quiet =>
    refine .bounded ((under.bounded_meet goesOn).trans ready) fun channel there => ?_
    obtain ⟨old, member, same, -⟩ := under.mem_channel_meet goesOn there
    exact same.trans (quiet old member)
  | @cancelled channel pending listening signal cancelled =>
    -- the signal is still there, and dropped handles leave its value
    have heard : (race.meet happening).channel.isSome := by
      rw [(under.meet happening).signal, ← under.signal, signal]
      rfl
    obtain ⟨now, there⟩ := Option.isSome_iff_exists.mp heard
    obtain ⟨old, member, same, -⟩ := under.mem_channel_meet goesOn there
    obtain rfl : channel = old := Option.some.inj (signal.symm.trans member)
    refine .cancelled ((under.bounded_meet goesOn).trans pending) ?_ there (same.trans cancelled)
    cases happening <;> exact listening

theorem Waiting.settled (waiting : race.Waiting context) {time : Duration}
    {happening : Happening α}
    (held : ∀ channel ∈ race.channel, ∀ act ∈ (Step.happens time happening).act?,
      0 < channel.handles)
    {outcome : Except ExecutionError α} (ends : context.ending? happening = some outcome) :
    (race.meet happening).Settled outcome := by
  cases happening with
  | ended result =>
    refine .bounded ?_ waiting.quiet
    simpa [Race.bounded, Race.meet, QueryContext.ending?] using ends
  | deadline =>
    obtain ⟨limit, limited, rfl⟩ : ∃ limit, context.timeout = some limit ∧
        .error (.timedOut limit) = outcome := by simpa [QueryContext.ending?] using ends
    -- work that has ended would have been found already
    have unfinished : race.result = none := by
      have pending := waiting.pending
      rw [Race.bounded] at pending
      split at pending
      · cases pending
      all_goals assumption
    refine .bounded ?_ waiting.quiet
    simp [Race.bounded, Race.meet, unfinished, waiting.timeout, limited]
  | handle act =>
    cases act with
    | drop => cases ends
    | cancel =>
      obtain ⟨cancellable, rfl⟩ : context.signal.isSome ∧ .error .cancelled = outcome := by
        simpa [QueryContext.ending?] using ends
      obtain ⟨channel, signal⟩ := Option.isSome_iff_exists.mp (waiting.signal.trans cancellable)
      exact .cancelled waiting.pending (waiting.listens channel signal (held channel signal _ rfl))
        (congrArg (Option.map _) signal) rfl

theorem held_meet {time : Duration} {happening : Happening α} {rest : List (Step α)}
    (held : ∀ channel ∈ race.channel,
      channel.Held ((Step.happens time happening :: rest).filterMap Step.act?)) :
    (∀ channel ∈ race.channel, ∀ act ∈ (Step.happens time happening).act?, 0 < channel.handles) ∧
      ∀ channel ∈ (race.meet happening).channel, channel.Held (rest.filterMap Step.act?) := by
  cases happening with
  | handle act =>
    refine ⟨fun channel there _ _ => (held channel there).1, fun channel member => ?_⟩
    obtain ⟨old, there, rfl⟩ := Option.map_eq_some_iff.mp member
    exact (held old there).2
  | ended | deadline => exact ⟨fun _ _ _ acted => (nomatch acted), held⟩

theorem Settled.drive {outcome : Except ExecutionError α} (settled : race.Settled outcome)
    (under : race.Under context) {steps : List (Step α)} (answered : context.Answered steps) :
    (race.drive steps).1 = some outcome := by
  induction steps generalizing race with
  | nil => exact answered.elim
  | cons step rest ih =>
    cases step with
    | happens time happening =>
      exact ih (settled.meet under answered.1) (under.meet happening) answered.2
    | poll signalFirst =>
      have found := settled.poll signalFirst
      rw [Race.drive]
      generalize race.poll signalFirst = polled at found
      obtain ⟨_, after⟩ := polled
      obtain rfl := found
      rfl

theorem Waiting.drive (waiting : race.Waiting context) {steps : List (Step α)}
    (prompt : context.Prompt steps)
    (held : ∀ channel ∈ race.channel, channel.Held (steps.filterMap Step.act?)) :
    (race.drive steps).1 = (steps.findSome? context.endingAt?).map Prod.fst := by
  induction steps generalizing race with
  | nil => rfl
  | cons step rest ih =>
    cases step with
    | poll signalFirst =>
      rw [Race.drive, waiting.poll]
      exact ih waiting.again prompt held
    | happens time happening =>
      obtain ⟨acts, left⟩ := held_meet held
      rw [Race.drive, List.findSome?_cons]
      rw [QueryContext.Prompt] at prompt
      rw [QueryContext.endingAt?] at prompt ⊢
      cases ends : context.ending? happening with
      | none => exact ih (waiting.meet ends) (by rwa [ends] at prompt) left
      | some outcome =>
        exact (waiting.settled acts ends).drive (waiting.toUnder.meet happening)
          (by rwa [ends] at prompt)

end Race

namespace QueryContext

variable {context : QueryContext} {handles : Nat} {before : List (Duration × HandleAct)}
  {during : List (Race.Step α)}

def cancelledBy (context : QueryContext) (before : List (Duration × HandleAct)) : Bool :=
  context.signal.isSome && (before.map Prod.snd).contains .cancel

theorem any_cancelled_start :
    (context.signal.map fun _ => Channel.start handles (before.map Prod.snd)).any
      Channel.cancelled = context.cancelledBy before := by
  cases signal : context.signal with
  | none => simp [cancelledBy, signal]
  | some _ => simp [cancelledBy, signal, Channel.start, Channel.cancelled_foldl]

theorem polled_of_cancelledBy (cancelled : context.cancelledBy before = true) :
    context.polled handles before during = (some (.error .cancelled), 0) := by
  rw [polled, any_cancelled_start, if_pos cancelled]

theorem polled_of_not_cancelledBy (uncancelled : context.cancelledBy before = false)
    (prompt : context.Prompt during)
    (held : ({ handles } : Channel).Held (before.map Prod.snd ++ during.filterMap Race.Step.act?)) :
    (context.polled handles before during).1 =
      (during.findSome? context.endingAt?).map Prod.fst := by
  have silent := (@any_cancelled_start context handles before).trans uncancelled
  rw [polled, if_neg (by rw [silent]; exact Bool.false_ne_true)]
  refine @Race.Waiting.drive _ _ context ?_ during prompt ?_
  · refine ⟨⟨rfl, Option.isSome_map⟩, ?_, fun channel there => ?_, fun _ _ _ => rfl⟩
    · cases limit : context.timeout <;> rfl
    · obtain ⟨_, signal, rfl⟩ := Option.map_eq_some_iff.mp there
      rw [signal] at silent
      exact silent
  · intro channel there
    obtain ⟨_, _, rfl⟩ := Option.map_eq_some_iff.mp there
    exact held.after_all

end QueryContext

end StatTree
