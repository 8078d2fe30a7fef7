import StatTree.Program

namespace StatTree.Gate

def Action.writes? : Action → Option Version
  | .step (.set version) => some version
  | .step (.apply version) => version
  | .step .getOrDefault => some .default
  | .views => some .default
  | .runner _ => some .default
  | .step .get => none
  | .step .isSet => none
  | .viewsOf _ => none
  | .runnerOf _ => none

def Action.firstProduct : Action → Product
  | .step (.set _) => .answer (.ok .done)
  | .step (.apply _) => .answer (.ok .done)
  | .step .get => .answer (.ok (.version none))
  | .step .isSet => .answer (.ok (.flag false))
  | .step .getOrDefault => .answer (.ok (.version (some .default)))
  | .views => .views .default
  | .viewsOf version => .views version
  | .runner context => .runner ⟨.default, context⟩
  | .runnerOf version => .runner ⟨version, none⟩

def Action.laterProduct (current : Version) : Action → Product
  | .step (.set _) => .answer (.error (.versionAlreadySet current))
  | .step (.apply (some _)) => .answer (.error (.versionAlreadySet current))
  | .step (.apply none) => .answer (.ok .done)
  | .step .get => .answer (.ok (.version (some current)))
  | .step .isSet => .answer (.ok (.flag true))
  | .step .getOrDefault => .answer (.ok (.version (some current)))
  | .views => .views current
  | .viewsOf version => .views version
  | .runner context => .runner ⟨current, context⟩
  | .runnerOf version => .runner ⟨version, none⟩

def written (actions : List Action) : Option Version := actions.findSome? Action.writes?

def after (gate : Gate) (actions : List Action) : Gate :=
  actions.foldl (fun gate action => (gate.act action).2) gate

theorem act_fresh (action : Action) :
    fresh.act action = (action.firstProduct, ⟨action.writes?⟩) := by
  cases action with
  | step step =>
    cases step with
    | apply version => cases version <;> rfl
    | _ => rfl
  | _ => rfl

theorem act_set (current : Version) (action : Action) :
    (⟨some current⟩ : Gate).act action = (action.laterProduct current, ⟨some current⟩) := by
  cases action with
  | step step =>
    cases step with
    | apply version => cases version <;> rfl
    | _ => rfl
  | _ => rfl

theorem laterProduct_of_requested {action : Action} (requested : action.requested?.isSome)
    (current : Version) :
    action.laterProduct current = .answer (.error (.versionAlreadySet current)) := by
  cases action with
  | step step =>
    cases step with
    | set version => rfl
    | apply version =>
      cases version with
      | none => cases requested
      | some version => rfl
    | _ => cases requested
  | _ => cases requested

theorem after_append (gate : Gate) (front back : List Action) :
    gate.after (front ++ back) = (gate.after front).after back := List.foldl_append

theorem after_set (current : Version) (actions : List Action) :
    (⟨some current⟩ : Gate).after actions = ⟨some current⟩ := by
  induction actions with
  | nil => rfl
  | cons action rest ih =>
    change (((⟨some current⟩ : Gate).act action).2).after rest = _
    rw [act_set, ih]

theorem after_fresh (actions : List Action) : fresh.after actions = ⟨written actions⟩ := by
  induction actions with
  | nil => rfl
  | cons action rest ih =>
    change ((fresh.act action).2).after rest = _
    rw [act_fresh, written, List.findSome?_cons]
    cases action.writes? with
    | none => exact ih
    | some version => exact after_set version rest

def Call.Met (gate : Gate) (call : Call) : Prop :=
  call.product = some (gate.act call.action).1 ∨
    call.product = none ∧ call.action.requested?.isSome ∧ gate.isSet

theorem Call.action_finish (gate : Gate) (call : Call) :
    (call.finish gate).action = call.action := by
  rw [finish]
  split <;> rfl

theorem Call.finish_of_requested {current : Version} {call : Call}
    (waiting : call.product = none) (requested : call.action.requested?.isSome) :
    call.finish ⟨some current⟩ =
      { call with product := some (.answer (.error (.versionAlreadySet current))) } := by
  obtain ⟨asked, found⟩ := Option.isSome_iff_exists.mp requested
  rw [finish, waiting, found]
  rfl

theorem Call.finish_of_product {gate : Gate} {call : Call} {product : Product}
    (done : call.product = some product) : call.finish gate = call := by
  rw [finish, done]

theorem Call.Met.finish {gate : Gate} {call : Call} (met : call.Met gate) (between : List Action) :
    (call.finish (gate.after between)).Met gate := by
  rcases met with done | ⟨waiting, requested, set⟩
  · rw [finish_of_product done]
    exact .inl done
  · obtain ⟨_ | current⟩ := gate
    · cases set
    · rw [after_set, finish_of_requested waiting requested]
      refine .inl ?_
      rw [act_set, laterProduct_of_requested requested]

namespace Shared

def actions (shared : Shared) : List Action := shared.calls.map Call.action

/-- Every call has met the gate as it is after the calls that began earlier, as if they had come
    one after the other. -/
structure Ordered (shared : Shared) : Prop where
  gate : shared.gate = fresh.after shared.actions
  calls : ∀ (index : Nat) (call : Call), shared.calls[index]? = some call →
    call.Met (fresh.after (shared.actions.take index))

theorem exists_begin (shared : Shared) (action : Action) :
    ∃ call : Call, call.action = action ∧ call.Met shared.gate ∧
      shared.begin action = ⟨(shared.gate.act action).2, shared.calls ++ [call]⟩ := by
  rw [begin]
  split
  · rename_i refused
    obtain ⟨requested, set⟩ := Bool.and_eq_true_iff.mp refused
    refine ⟨⟨action, none⟩, rfl, .inr ⟨rfl, requested, set⟩, ?_⟩
    obtain ⟨⟨_ | current⟩, calls⟩ := shared
    · cases set
    · rw [act_set]
  · exact ⟨⟨action, some (shared.gate.act action).1⟩, rfl, .inl rfl, rfl⟩

theorem Ordered.begin {shared : Shared} (ordered : Ordered shared) (action : Action) :
    Ordered (shared.begin action) := by
  obtain ⟨call, rfl, met, begun⟩ := exists_begin shared action
  have actions : (shared.begin call.action).actions = shared.actions ++ [call.action] := by
    rw [begun, Shared.actions, List.map_append]
    rfl
  constructor
  · rw [actions, after_append, ← ordered.gate, begun]
    rfl
  · intro index other found
    have length : shared.actions.length = shared.calls.length := List.length_map ..
    rw [begun, List.getElem?_append] at found
    rw [actions]
    split at found
    · rw [List.take_append_of_le_length (by omega)]
      exact ordered.calls index other found
    · have last : index = shared.actions.length := by
        have bound := (List.getElem?_eq_some_iff.mp found).1
        rw [List.length_singleton] at bound
        omega
      rw [last, length, Nat.sub_self] at found
      cases found
      rw [last, List.take_left, ← ordered.gate]
      exact met

theorem actions_reads (shared : Shared) (index : Nat) :
    (shared.access (.reads index)).actions = shared.actions := by
  refine List.ext_getElem? fun place => ?_
  rw [actions, actions, access, List.getElem?_map, List.getElem?_map, List.getElem?_modify]
  cases shared.calls[place]? with
  | none => rfl
  | some call =>
    by_cases own : index = place
    · simp [own, Call.action_finish]
    · simp [own]

theorem Ordered.reads {shared : Shared} (ordered : Ordered shared) (index : Nat) :
    Ordered (shared.access (.reads index)) := by
  constructor
  · rw [actions_reads]
    exact ordered.gate
  · intro place call found
    rw [actions_reads]
    rw [access, List.getElem?_modify] at found
    obtain ⟨before, inOrder, same⟩ := Option.map_eq_some_iff.mp found
    have met := ordered.calls place before inOrder
    by_cases own : index = place
    · have whole : shared.gate = (fresh.after (shared.actions.take place)).after
          (shared.actions.drop place) := by
        rw [← after_append, List.take_append_drop, ordered.gate]
      rw [if_pos own, whole] at same
      rw [← same]
      exact met.finish _
    · rw [if_neg own] at same
      rw [← same]
      exact met

theorem Ordered.run {shared : Shared} (ordered : Ordered shared) (accesses : List Access) :
    Ordered (shared.run accesses) := by
  induction accesses generalizing shared with
  | nil => exact ordered
  | cons access rest ih =>
    refine ih ?_
    cases access with
    | begins action => exact ordered.begin action
    | reads index => exact ordered.reads index

theorem Ordered.product {shared : Shared} (ordered : Ordered shared) {index : Nat} {call : Call}
    (found : shared.calls[index]? = some call) :
    match written (shared.actions.take index) with
    | none => call.product = some call.action.firstProduct
    | some current => call.product = some (call.action.laterProduct current) ∨
        call.product = none ∧ call.action.requested?.isSome ∧
          (shared.access (.reads index)).calls[index]? = some
            { call with product := some (.answer (.error (.versionAlreadySet current))) } := by
  have met := ordered.calls index call found
  rw [after_fresh] at met
  cases before : written (shared.actions.take index) with
  | none =>
    rw [before] at met
    rcases met with done | ⟨_, _, set⟩
    · exact done.trans (congrArg some (congrArg Prod.fst (act_fresh call.action)))
    · cases set
  | some current =>
    rw [before] at met
    rcases met with done | ⟨waiting, requested, _⟩
    · rw [done, act_set]
      exact .inl rfl
    · have set : shared.gate = ⟨some current⟩ := by
        rw [ordered.gate, after_fresh, ← List.take_append_drop index shared.actions, written,
          List.findSome?_append, ← written, before, Option.some_or]
      refine .inr ⟨waiting, requested, ?_⟩
      rw [access, set, List.getElem?_modify_eq, found]
      exact congrArg some (Call.finish_of_requested waiting requested)

end Shared

end StatTree.Gate

namespace StatTree

example :
    let shared := Gate.Shared.run {} [.begins (.step (.set .postgres9)),
      .begins (.step (.set .postgres13)), .begins (.runner none), .reads 1]
    shared.calls.map Gate.Call.product =
      [some (.answer (.ok .done)), some (.answer (.error (.versionAlreadySet .postgres9))),
        some (.runner ⟨.postgres9, none⟩)] := rfl

end StatTree
