import StatTree.Proofs.Outcome
import Mathlib.Data.List.Forall2

namespace StatTree

section

variable {α β : Type} {related : α → β → Prop} {xs : List α} {ys : List β}

theorem exists_mem_left_of_forall₂ (each : List.Forall₂ related xs ys) {y : β} (member : y ∈ ys) :
    ∃ x ∈ xs, related x y := by
  induction each with
  | nil => cases member
  | cons first _ ih =>
    rcases List.mem_cons.mp member with rfl | member
    · exact ⟨_, List.mem_cons_self, first⟩
    · obtain ⟨x, below, found⟩ := ih member
      exact ⟨x, List.mem_cons_of_mem _ below, found⟩

theorem exists_mem_right_of_forall₂ (each : List.Forall₂ related xs ys) {x : α}
    (member : x ∈ xs) : ∃ y ∈ ys, related x y :=
  exists_mem_left_of_forall₂ each.flip member

theorem exists_getElem?_of_forall₂ {index : Nat} {x : α} (each : List.Forall₂ related xs ys)
    (found : xs[index]? = some x) : ∃ y, ys[index]? = some y ∧ related x y := by
  induction each generalizing index with
  | nil => cases found
  | cons first _ ih =>
    cases index with
    | zero =>
      cases found
      exact ⟨_, rfl, first⟩
    | succ index => exact ih found

theorem mem_and_mem_of_forall₂ (each : List.Forall₂ related xs ys) :
    List.Forall₂ (fun x y => x ∈ xs ∧ y ∈ ys ∧ related x y) xs ys := by
  obtain ⟨length, each⟩ := List.forall₂_iff_get.mp each
  refine List.forall₂_iff_get.mpr ⟨length, fun index hx hy => ?_⟩
  exact ⟨List.get_mem xs _, List.get_mem ys _, each index hx hy⟩

theorem exists_forall₂_iff :
    (∃ ys, List.Forall₂ related xs ys) ↔ ∀ x ∈ xs, ∃ y, related x y := by
  induction xs with
  | nil => exact ⟨fun _ _ member => absurd member List.not_mem_nil, fun _ => ⟨[], .nil⟩⟩
  | cons x xs ih =>
    rw [List.forall_mem_cons, ← ih]
    constructor
    · intro related
      obtain ⟨_, _ | ⟨first, rest⟩⟩ := related
      exact ⟨⟨_, first⟩, ⟨_, rest⟩⟩
    · intro related
      obtain ⟨⟨y, first⟩, ⟨ys, rest⟩⟩ := related
      exact ⟨y :: ys, .cons first rest⟩

theorem forall₂_comp {γ : Type} {next : β → γ → Prop} {zs : List γ}
    (first : List.Forall₂ related xs ys) (second : List.Forall₂ next ys zs) :
    List.Forall₂ (fun x z => ∃ y, related x y ∧ next y z) xs zs := by
  induction first generalizing zs with
  | nil =>
    cases second
    exact .nil
  | cons head _ ih =>
    obtain _ | ⟨below, rest⟩ := second
    exact .cons ⟨_, head, below⟩ (ih rest)

theorem forall₂_eq_of_filterMap_eq {γ : Type} {f : α → Option γ} {g : β → Option γ}
    (places : List.Forall₂ (fun x y => (f x).isSome = (g y).isSome) xs ys)
    (same : xs.filterMap f = ys.filterMap g) : List.Forall₂ (fun x y => f x = g y) xs ys := by
  induction places with
  | nil => exact .nil
  | @cons x y xs ys first _ ih =>
    cases left : f x with
    | none =>
      have right : g y = none := by
        rw [← Option.not_isSome_iff_eq_none, ← first, left]
        exact Bool.false_ne_true
      rw [List.filterMap_cons_none left, List.filterMap_cons_none right] at same
      exact .cons (left.trans right.symm) (ih same)
    | some kept =>
      have right : (g y).isSome := by rw [← first, left]; rfl
      obtain ⟨other, right⟩ := Option.isSome_iff_exists.mp right
      rw [List.filterMap_cons_some left, List.filterMap_cons_some right] at same
      obtain ⟨rfl, rest⟩ := List.cons.inj same
      exact .cons (left.trans right.symm) (ih rest)

end

end StatTree
