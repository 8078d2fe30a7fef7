import StatTree.Proofs.Context.Polled

namespace StatTree

variable {α β γ : Type}

inductive Thinned (mayGo : β → Prop) : List β → List β → Prop
  | nil : Thinned mayGo [] []
  | gone {b : β} {fewer all : List β} :
    mayGo b → Thinned mayGo fewer all → Thinned mayGo fewer (b :: all)
  | kept {b : β} {fewer all : List β} :
    Thinned mayGo fewer all → Thinned mayGo (b :: fewer) (b :: all)

namespace Thinned

theorem filterMap {mayGo : β → Prop} {mayGo' : γ → Prop} {f : β → Option γ}
    (goes : ∀ b c, mayGo b → f b = some c → mayGo' c) {fewer all : List β}
    (thinned : Thinned mayGo fewer all) :
    Thinned mayGo' (fewer.filterMap f) (all.filterMap f) := by
  induction thinned with
  | nil => exact .nil
  | @gone b fewer all going _ ih =>
    cases image : f b with
    | none => rwa [List.filterMap_cons_none image]
    | some c => rw [List.filterMap_cons_some image]; exact .gone (goes b c going image) ih
  | @kept b fewer all _ ih =>
    cases image : f b with
    | none => rwa [List.filterMap_cons_none image, List.filterMap_cons_none image]
    | some c => rw [List.filterMap_cons_some image, List.filterMap_cons_some image]; exact .kept ih

theorem append {mayGo : β → Prop} {fewer all fewer' all' : List β}
    (left : Thinned mayGo fewer all) (right : Thinned mayGo fewer' all') :
    Thinned mayGo (fewer ++ fewer') (all ++ all') := by
  induction left with
  | nil => exact right
  | gone going _ ih => exact .gone going ih
  | kept _ ih => exact .kept ih

theorem contains_eq [BEq β] [LawfulBEq β] {mayGo : β → Prop} {fewer all : List β}
    (thinned : Thinned mayGo fewer all) {b : β} (stays : ¬ mayGo b) :
    fewer.contains b = all.contains b := by
  induction thinned with
  | nil => rfl
  | @gone c _ _ going _ ih =>
    have other : (b == c) = false := beq_false_of_ne fun same => stays (same ▸ going)
    rw [ih, List.contains_cons, other, Bool.false_or]
  | kept _ ih => rw [List.contains_cons, List.contains_cons, ih]

end Thinned

theorem Channel.Held.thinned {fewer all : List HandleAct} (thinned : Thinned (· = .drop) fewer all)
    {channel more : Channel} (held : channel.Held all) (left : channel.handles ≤ more.handles) :
    more.Held fewer := by
  -- with some drops left out there are never fewer handles than with all of them
  induction thinned generalizing channel more with
  | nil => trivial
  | gone drop _ ih =>
    subst drop
    exact ih held.2 (Nat.le_trans (Nat.sub_le _ _) left)
  | @kept act _ _ _ ih =>
    refine ⟨Nat.lt_of_lt_of_le held.1 left, ih held.2 ?_⟩
    cases act with
    | cancel => exact left
    | drop => exact Nat.sub_le_sub_right left 1

namespace QueryContext

variable {context : QueryContext} {fewer all : List (Race.Step α)}

theorem endingAt?_of_drop {step : Race.Step α} (drop : step.act? = some .drop) :
    context.endingAt? step = none := by
  cases step with
  | poll => rfl
  | happens time happening =>
    cases happening with
    | ended | deadline => cases drop
    | handle act => cases drop; rfl

theorem Answered.thinned (thinned : Thinned (·.act? = some .drop) fewer all)
    (answered : context.Answered all) : context.Answered fewer := by
  induction thinned with
  | nil => exact answered
  | @gone step _ _ drop _ ih =>
    cases step with
    | poll => cases drop
    | happens time happening => exact ih answered.2
  | @kept step _ _ _ ih =>
    cases step with
    | poll => trivial
    | happens time happening => exact ⟨answered.1, ih answered.2⟩

theorem Prompt.thinned (thinned : Thinned (·.act? = some .drop) fewer all)
    (prompt : context.Prompt all) : context.Prompt fewer := by
  induction thinned with
  | nil => trivial
  | gone drop _ ih =>
    rw [Prompt, endingAt?_of_drop drop] at prompt
    exact ih prompt
  | @kept step _ _ rest ih =>
    rw [Prompt] at prompt ⊢
    split
    · rename_i ends
      rw [if_pos ends] at prompt
      exact prompt.thinned rest
    · rename_i goesOn
      rw [if_neg goesOn] at prompt
      exact ih prompt

theorem findSome?_thinned (thinned : Thinned (·.act? = some .drop) fewer all) :
    fewer.findSome? context.endingAt? = all.findSome? context.endingAt? := by
  induction thinned with
  | nil => rfl
  | gone drop _ ih => rw [List.findSome?_cons, endingAt?_of_drop drop]; exact ih
  | kept _ ih => rw [List.findSome?_cons, List.findSome?_cons, ih]

/-- Dropped handles make no difference to the outcome of a run, before it or during it. -/
theorem polled_thinned {handles : Nat} {before before' : List (Duration × HandleAct)}
    (prompt : context.Prompt all)
    (held : ({ handles } : Channel).Held (before.map Prod.snd ++ all.filterMap Race.Step.act?))
    (earlier : Thinned (·.2 = .drop) before' before)
    (later : Thinned (·.act? = some .drop) fewer all) :
    (context.polled handles before' fewer).1 = (context.polled handles before all).1 := by
  have did : Thinned (· = .drop) (before'.map Prod.snd) (before.map Prod.snd) := by
    rw [← List.filterMap_eq_map']
    exact earlier.filterMap fun _ _ drop same => (Option.some.inj same).symm.trans drop
  have does : Thinned (· = .drop) (fewer.filterMap Race.Step.act?) (all.filterMap Race.Step.act?) :=
    later.filterMap fun _ _ drop same => Option.some.inj (same.symm.trans drop)
  have same : context.cancelledBy before' = context.cancelledBy before := by
    rw [cancelledBy, cancelledBy, did.contains_eq (by decide)]
  cases cancelled : context.cancelledBy before with
  | true => rw [polled_of_cancelledBy cancelled, polled_of_cancelledBy (same.trans cancelled)]
  | false =>
    rw [polled_of_not_cancelledBy cancelled prompt held,
      polled_of_not_cancelledBy (same.trans cancelled) (prompt.thinned later)
        (held.thinned (did.append does) (Nat.le_refl _)), findSome?_thinned later]

end QueryContext

end StatTree
