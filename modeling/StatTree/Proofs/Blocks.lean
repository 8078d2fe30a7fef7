import Mathlib.Algebra.BigOperators.Group.Multiset.Basic
import Mathlib.Data.Multiset.Bind

namespace StatTree

variable {β γ κ : Type}

theorem filter_flatMap_block {block : β → List γ} {xs : List β} {p : γ → Bool} {q : β → Bool}
    (same : ∀ x ∈ xs, ∀ y ∈ block x, p y = q x) :
    (xs.flatMap block).filter p = (xs.filter q).flatMap block := by
  induction xs with
  | nil => rfl
  | cons x xs ih =>
    obtain ⟨own, rest⟩ := List.forall_mem_cons.mp same
    rw [List.flatMap_cons, List.filter_append, ih rest]
    cases kept : q x with
    | true =>
      rw [List.filter_cons_of_pos kept, List.flatMap_cons, List.filter_eq_self.mpr]
      exact fun y inside => (own y inside).trans kept
    | false =>
      have out : ¬q x = true := by simp [kept]
      rw [List.filter_cons_of_neg out, List.filter_eq_nil_iff.mpr, List.nil_append]
      exact fun y inside => by rwa [own y inside]

section

variable [BEq κ] [LawfulBEq κ] {key : γ → κ} {name : β → κ} {block : β → List γ} {xs : List β}

theorem filter_name_eq_singleton (distinct : xs.Pairwise fun a b => name a ≠ name b) {x : β}
    (member : x ∈ xs) : xs.filter (fun other => name other == name x) = [x] := by
  obtain ⟨front, back, rfl⟩ := List.append_of_mem member
  obtain ⟨_, right, across⟩ := List.pairwise_append.mp distinct
  obtain ⟨after, _⟩ := List.pairwise_cons.mp right
  rw [List.filter_append, List.filter_cons_of_pos (by simp), List.filter_eq_nil_iff.mpr,
    List.filter_eq_nil_iff.mpr, List.nil_append]
  · intro other inBack
    simpa using (after other inBack).symm
  · intro other inFront
    simpa using across other inFront x List.mem_cons_self

theorem eraseDups_map_flatMap (keys : ∀ x ∈ xs, ∀ y ∈ block x, key y = name x)
    (filled : ∀ x ∈ xs, block x ≠ []) (distinct : xs.Pairwise fun a b => name a ≠ name b) :
    ((xs.flatMap block).map key).eraseDups = xs.map name := by
  induction xs with
  | nil => rfl
  | cons x xs ih =>
    obtain ⟨own, rest⟩ := List.forall_mem_cons.mp keys
    obtain ⟨some, others⟩ := List.forall_mem_cons.mp filled
    obtain ⟨apart, distinct⟩ := List.pairwise_cons.mp distinct
    obtain ⟨y, ys, head⟩ := List.exists_cons_of_ne_nil some
    rw [head] at own
    -- The first key of the block drops the others of the block, and none after it.
    have dropped : (ys.map key).filter (fun other => !other == name x) = [] := by
      rw [List.filter_eq_nil_iff, List.forall_mem_map]
      intro z inside
      simp [own z (List.mem_cons_of_mem _ inside)]
    have kept : ((xs.flatMap block).map key).filter (fun other => !other == name x) =
        (xs.flatMap block).map key := by
      rw [List.filter_eq_self, List.forall_mem_map]
      intro z inside
      obtain ⟨w, member, inBlock⟩ := List.mem_flatMap.mp inside
      simpa [rest w member z inBlock] using (apart w member).symm
    rw [List.flatMap_cons, head, List.cons_append, List.map_cons, List.eraseDups_cons,
      own y List.mem_cons_self, List.map_append, List.filter_append, dropped, kept,
      List.nil_append, ih rest others distinct, List.map_cons]

end

theorem coe_flatMap_replicate (xs : List β) (n : Nat) :
    (xs.flatMap (List.replicate n) : Multiset β) = n • (xs : Multiset β) := by
  have each : ∀ x : β, (List.replicate n x : Multiset β) = n • {x} := by
    intro x
    rw [Multiset.nsmul_singleton, Multiset.coe_replicate]
  simp only [← Multiset.coe_bind, each, Multiset.bind, Multiset.join, Multiset.sum_map_nsmul,
    Multiset.sum_map_singleton]

theorem coe_flatMap_const {xs : List β} {f : β → List γ} {image : Multiset γ}
    (same : ∀ x ∈ xs, (f x : Multiset γ) = image) :
    (xs.flatMap f : Multiset γ) = xs.length • image := by
  rw [← Multiset.coe_bind, Multiset.bind_congr same]
  simp [Multiset.bind, Multiset.join]

theorem nsmul_eq_self_iff {elements : Multiset β} {n : Nat} :
    n • elements = elements ↔ elements = 0 ∨ n = 1 := by
  constructor
  · intro same
    have sizes := congrArg Multiset.card same
    rw [Multiset.card_nsmul] at sizes
    rcases Nat.eq_zero_or_pos elements.card with none | some
    · exact .inl (Multiset.card_eq_zero.mp none)
    · exact .inr (Nat.eq_of_mul_eq_mul_right some (sizes.trans (Nat.one_mul _).symm))
  · rintro (rfl | rfl)
    · rw [nsmul_zero]
    · rw [one_nsmul]

end StatTree
